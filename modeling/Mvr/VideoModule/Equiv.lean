import Mvr.VideoModule.Basic
import Mvr.Player.Equiv.Gather
import Mathlib.Tactic.FieldSimp

/-!
# The cells of the web player

The server numbers the cells of its grid row by row.  The player takes the column of an index from
the number of columns, but its row from the number of rows, so it shows the cell the server means
exactly in a square grid; the two pixels that it crops on each side leave nothing of a cell that is
less than two pixels high (`cropsServerCells_iff`).
-/

namespace Mvr.VideoModule

variable {Canvas : Type}

/-- What is registered for an index. -/
def registered (numRow numCol : ℕ) (canvas : Canvas) (videoIndex : ℕ) : List (CanvasItem Canvas) :=
  ((new numRow numCol).registerCanvasSimple canvas videoIndex).canvasList

/-- The source rectangle of an item. -/
def crop (numRow numCol : ℕ) (item : CanvasItem Canvas) : Rect ℚ :=
  (new numRow numCol : VideoModule Canvas).sourceRect item

/-- The player shows the cells that the server means: the item of an index is the cell with this
number in row-major order, which is the cell of the server's record; the source rectangles lie in
the frame, and those of different indices do not overlap. -/
structure CropsServerCells (numRow numCol : ℕ) (canvas : Canvas) : Prop where
  cell : ∀ i < numRow * numCol,
    registered numRow numCol canvas i = [⟨canvas, i % numCol, i / numCol, 1, 1⟩]
  server : ∀ i < numRow * numCol, ∀ item ∈ registered numRow numCol canvas i,
    ∀ (cols : Int32) (tab : Player.LayoutTab) (r : Player.PosRecord), cols.toInt = numCol →
      Player.recordAt cols tab i = some r → r.colNo.toInt = item.xPos ∧ r.rowNo.toInt = item.yPos
  inside : ∀ i < numRow * numCol, ∀ item ∈ registered numRow numCol canvas i,
    (crop numRow numCol item).Inside 1920 1080
  disjoint : ∀ i < numRow * numCol, ∀ j < numRow * numCol, i ≠ j →
    ∀ item ∈ registered numRow numCol canvas i, ∀ item' ∈ registered numRow numCol canvas j,
      (crop numRow numCol item).Disjoint (crop numRow numCol item')

variable {numRow numCol : ℕ} {canvas : Canvas}

theorem registered_eq (numRow numCol : ℕ) (canvas : Canvas) (i : ℕ) :
    registered numRow numCol canvas i = [⟨canvas, i % numCol, i / numRow, 1, 1⟩] := rfl

/-- The row and the column of a record of the server. -/
theorem recordAt_rowNo_colNo {cols : Int32} {tab : Player.LayoutTab} {i : ℕ}
    {r : Player.PosRecord} (hcols : cols.toInt = numCol) (hpos : 1 ≤ numCol)
    (h : Player.recordAt cols tab i = some r) :
    r.rowNo.toInt = (i / numCol : ℕ) ∧ r.colNo.toInt = (i % numCol : ℕ) := by
  unfold Player.recordAt at h
  rw [Option.map_eq_some_iff] at h
  obtain ⟨v, hv, rfl⟩ := h
  -- the table has an entry at the index
  have hi : i < Player.maxLayerNums := by
    by_contra hge
    unfold Player.entry at hv
    rw [Vector.getElem?_eq_none (by omega)] at hv
    cases hv
  have hmax : Player.maxLayerNums = 128 := rfl
  dsimp only
  rw [CInt.toInt_ofNat_div (by omega) (by omega), CInt.toInt_ofNat_mod (by omega) (by omega), hcols]
  exact ⟨(Int.natCast_div ..).symm, (Int.natCast_mod ..).symm⟩

/-- The source rectangle of a single cell. -/
theorem crop_cell (numRow numCol : ℕ) (canvas : Canvas) (a b : ℕ) :
    crop numRow numCol ⟨canvas, a, b, 1, 1⟩ =
      Rect.cropped (1920 / (numCol : ℚ)) (1080 / (numRow : ℚ)) pad a b := by
  simp [crop, sourceRect, new, Rect.cropped]

/-- Only in a square grid every index is registered as the right cell. -/
theorem eq_of_cell (hr : 1 ≤ numRow) (hc : 1 ≤ numCol)
    (h : ∀ i < numRow * numCol,
      registered numRow numCol canvas i = [⟨canvas, i % numCol, i / numCol, 1, 1⟩]) :
    numRow = numCol := by
  have hrow : ∀ i < numRow * numCol, i / numRow = i / numCol := by
    intro i hi
    have hitem := List.singleton_inj.mp ((registered_eq numRow numCol canvas i).symm.trans (h i hi))
    exact congrArg CanvasItem.yPos hitem
  rcases lt_trichotomy numRow numCol with hlt | heq | hgt
  · -- the index that begins the second row by the code's count is still in the first
    have hi : numRow < numRow * numCol := by
      calc numRow = numRow * 1 := (Nat.mul_one _).symm
        _ < numRow * numCol := Nat.mul_lt_mul_of_pos_left (by omega) (by omega)
    have hdiv := hrow numRow hi
    rw [Nat.div_self (by omega), Nat.div_eq_of_lt hlt] at hdiv
    omega
  · exact heq
  · have hi : numCol < numRow * numCol := by
      calc numCol = 1 * numCol := (Nat.one_mul _).symm
        _ < numRow * numCol := Nat.mul_lt_mul_of_pos_right (by omega) (by omega)
    have hdiv := hrow numCol hi
    rw [Nat.div_self (by omega), Nat.div_eq_of_lt hgt] at hdiv
    omega

/-- A cell is as high or as wide as its margin. -/
theorem pad_le_div_iff {n : ℕ} (hn : 1 ≤ n) (a : ℚ) : pad ≤ a / n ↔ 2 * (n : ℚ) ≤ a := by
  have hpos : (0 : ℚ) < n := by exact_mod_cast hn
  rw [le_div_iff₀ hpos, pad]

/-- The first cell is inside the frame only if it is as high as its margin. -/
theorem rows_le_of_inside (hr : 1 ≤ numRow) (hc : 1 ≤ numCol)
    (h : ∀ i < numRow * numCol, ∀ item ∈ registered numRow numCol canvas i,
      (crop numRow numCol item).Inside 1920 1080) : numRow ≤ 540 := by
  have hfirst : ⟨canvas, 0, 0, 1, 1⟩ ∈ registered numRow numCol canvas 0 := by
    rw [registered_eq, Nat.zero_mod, Nat.zero_div]
    exact List.mem_singleton.mpr rfl
  have htop := (h 0 (Nat.mul_pos hr hc) _ hfirst).top
  rw [crop_cell] at htop
  unfold Rect.cropped at htop
  simp only [Nat.cast_zero, zero_mul, zero_add] at htop
  have hpad := (pad_le_div_iff hr 1080).mp (Rect.le_of_cropped_inside htop)
  have hle : (numRow : ℚ) ≤ 540 := by linarith
  exact_mod_cast hle

/-- The player shows the cells that the server means exactly in a square grid of cells at least two
pixels high. -/
theorem cropsServerCells_iff (hr : 1 ≤ numRow) (hc : 1 ≤ numCol) (canvas : Canvas) :
    CropsServerCells numRow numCol canvas ↔ numRow = numCol ∧ numRow ≤ 540 := by
  constructor
  · intro h
    exact ⟨eq_of_cell hr hc h.cell, rows_le_of_inside hr hc h.inside⟩
  · rintro ⟨rfl, hle⟩
    have hpos : (0 : ℚ) < numRow := by exact_mod_cast hr
    have hle' : (numRow : ℚ) ≤ 540 := by exact_mod_cast hle
    have hpad : (0 : ℚ) ≤ pad := by norm_num [pad]
    have hw : pad ≤ 1920 / numRow := (pad_le_div_iff hr 1920).mpr (by linarith)
    have hh : pad ≤ 1080 / numRow := (pad_le_div_iff hr 1080).mpr (by linarith)
    have hframeW : (numRow : ℚ) * (1920 / numRow) = 1920 := by field_simp
    have hframeH : (numRow : ℚ) * (1080 / numRow) = 1080 := by field_simp
    refine ⟨fun i _ => rfl, fun i _ item hitem cols tab r hcols hrec => ?_,
      fun i hi item hitem => ?_, fun i hi j hj hij item hitem item' hitem' => ?_⟩
    · rw [registered_eq, List.mem_singleton] at hitem
      subst hitem
      exact (recordAt_rowNo_colNo hcols hr hrec).symm
    · rw [registered_eq, List.mem_singleton] at hitem
      subst hitem
      have hinside := Rect.inside_cropped hpad hw hh (Nat.mod_lt i hr) (Nat.div_lt_of_lt_mul hi)
      rw [hframeW, hframeH] at hinside
      rwa [crop_cell]
    · rw [registered_eq, List.mem_singleton] at hitem hitem'
      subst hitem hitem'
      rw [crop_cell, crop_cell]
      apply Rect.disjoint_cropped hpad hw hh
      -- an index is determined by its column and its row
      by_contra hsame
      push Not at hsame
      apply hij
      rw [← Nat.div_add_mod i numRow, hsame.1, hsame.2, Nat.div_add_mod]

/-- The grid of the test page. -/
theorem cropsServerCells_testPage : CropsServerCells 8 8 () :=
  (cropsServerCells_iff (by decide) (by decide) ()).mpr ⟨rfl, by decide⟩

/-- In the 16 × 8 grid of the server's fixed mode the indices 0 and 8 are registered as one cell. -/
theorem not_cropsServerCells_fixed :
    registered 16 8 () 8 = registered 16 8 () 0 ∧ ¬ CropsServerCells 16 8 () := by
  refine ⟨rfl, fun h => ?_⟩
  have hcell := h.cell 8 (by decide)
  revert hcell
  decide

end Mvr.VideoModule
