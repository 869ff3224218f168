import Mvr.Vif.ReorganizeYuv
import Mvr.CInt.Basic
import Mvr.GridLayout.Basic
import Mathlib.Tactic.Ring

/-!
# What the frame composer copies

The block map of a layout is a list of patches for each plane, `lumaPatches` and `chromaPatches`,
and `reorganizeYUV_eq_ok` says that the composer pastes them in order: no access leaves a plane
(`blockRow_le`, `blockCol_le` and, for the chroma rows of odd block heights, `chromaRow_le`), and
the rows of a block, copied one by one, add up to its patch.  A chroma row is copied once for each
luma row of its pair, the second time over itself.
-/

namespace Mvr.Vif

open Patch

namespace WebPara

variable (webPara : WebPara)

/-- The luma patch that shows block `s` of the input in block `i`. -/
def lumaPatch (i s : ℕ) : Patch where
  row := i / webPara.cols * webPara.blkH
  col := i % webPara.cols * webPara.blkW
  srcRow := s / webPara.cols * webPara.blkH
  srcCol := s % webPara.cols * webPara.blkW
  height := webPara.blkH
  width := webPara.blkW

/-- The chroma patch that goes with it. -/
def chromaPatch (i s : ℕ) : Patch where
  row := i / webPara.cols * webPara.blkH / 2
  col := i % webPara.cols * webPara.blkW
  srcRow := s / webPara.cols * webPara.blkH / 2
  srcCol := s % webPara.cols * webPara.blkW
  height := (webPara.blkH + 1) / 2
  width := webPara.blkW

/-- The patches of the first `n` blocks. -/
def patches (patch : ℕ → ℕ → Patch) (n : ℕ) : List Patch :=
  (List.range n).filterMap fun i => (webPara.source i).map (patch i)

/-- The luma patches, in the order of the blocks. -/
def lumaPatches : List Patch :=
  webPara.patches webPara.lumaPatch (webPara.cols * webPara.rows)

/-- The chroma patches, in the order of the blocks. -/
def chromaPatches : List Patch :=
  webPara.patches webPara.chromaPatch (webPara.cols * webPara.rows)

theorem patches_succ (patch : ℕ → ℕ → Patch) (n : ℕ) :
    webPara.patches patch (n + 1) =
      webPara.patches patch n ++ ((webPara.source n).map (patch n)).toList := by
  unfold patches
  rw [List.range_succ, List.filterMap_append]
  cases hs : webPara.source n <;> simp [hs]

/-- The blocks fit into the luma plane. -/
theorem rows_mul_blkH_le : webPara.rows * webPara.blkH ≤ viH := Nat.mul_div_le _ _

theorem cols_mul_blkW_le : webPara.cols * webPara.blkW ≤ viW := Nat.mul_div_le _ _

end WebPara

/-! ### The grid -/

namespace WebPara.Valid

variable {webPara : WebPara} (hweb : webPara.Valid)

include hweb

theorem toInt_cols : webPara.dstHorizontalBlks.toInt = webPara.cols :=
  (Int.toNat_of_nonneg (by have := hweb.one_le_cols; omega)).symm

theorem toInt_rows : webPara.dstVerticalBlks.toInt = webPara.rows :=
  (Int.toNat_of_nonneg (by have := hweb.one_le_rows; omega)).symm

theorem cols_pos : 0 < webPara.cols := by
  have h := hweb.one_le_cols
  rw [hweb.toInt_cols] at h
  omega

theorem rows_pos : 0 < webPara.rows := by
  have h := hweb.one_le_rows
  rw [hweb.toInt_rows] at h
  omega

theorem cells_le_max : webPara.cols * webPara.rows ≤ maxLayerNums := by
  have h := hweb.cells_le
  rw [hweb.toInt_cols, hweb.toInt_rows] at h
  exact_mod_cast h

/-- A cell is empty, or its entry is the number of a block. -/
theorem entry_cases {i : ℕ} (hi : i < webPara.cols * webPara.rows) :
    ∃ h : i < maxLayerNums,
      (webPara.layerLayoutTab[i] = -1 ∧ webPara.source i = none) ∨
      ∃ s, s < webPara.cols * webPara.rows ∧ webPara.layerLayoutTab[i] = Int32.ofNat s ∧
        webPara.source i = some s := by
  have hmax := hweb.cells_le_max
  have hlt : i < maxLayerNums := by omega
  have hentry := hweb.entry i hlt (by
    rw [hweb.toInt_cols, hweb.toInt_rows]
    exact_mod_cast hi)
  rw [hweb.toInt_cols, hweb.toInt_rows] at hentry
  refine ⟨hlt, ?_⟩
  unfold WebPara.source
  rw [Vector.getElem?_eq_getElem hlt]
  dsimp only
  rcases hentry with hempty | ⟨hlo, hhi⟩
  · left
    have hneg : webPara.layerLayoutTab[i] = -1 := by
      rw [← Int32.toInt_inj, hempty]
      rfl
    exact ⟨hneg, if_pos hneg⟩
  · right
    have hneg : webPara.layerLayoutTab[i] ≠ -1 := by
      intro h
      rw [h] at hlo
      exact absurd hlo (by decide)
    refine ⟨webPara.layerLayoutTab[i].toInt.toNat, ?_, (CInt.ofNat_toNat hlo).symm, if_neg hneg⟩
    have hcast : (webPara.layerLayoutTab[i].toInt.toNat : ℤ) <
        ((webPara.cols * webPara.rows : ℕ) : ℤ) := by
      rw [Int.toNat_of_nonneg hlo]
      exact_mod_cast hhi
    exact_mod_cast hcast

theorem source_lt {i s : ℕ} (hi : i < webPara.cols * webPara.rows)
    (hs : webPara.source i = some s) : s < webPara.cols * webPara.rows := by
  obtain ⟨-, ⟨-, hnone⟩ | ⟨s', hlt, -, hsome⟩⟩ := hweb.entry_cases hi
  · rw [hs] at hnone
    cases hnone
  · rw [hs] at hsome
    cases hsome
    exact hlt

omit hweb in
theorem div_lt {n : ℕ} (hn : n < webPara.cols * webPara.rows) : n / webPara.cols < webPara.rows :=
  Nat.div_lt_of_lt_mul hn

theorem mod_lt (n : ℕ) : n % webPara.cols < webPara.cols := Nat.mod_lt _ hweb.cols_pos

omit hweb in
/-- A block ends above the bottom of the luma plane. -/
theorem blockRow_le {n : ℕ} (hn : n < webPara.cols * webPara.rows) :
    n / webPara.cols * webPara.blkH + webPara.blkH ≤ viH := by
  have hrow := Nat.mul_le_mul_right webPara.blkH (div_lt hn)
  have hall := webPara.rows_mul_blkH_le
  rw [Nat.succ_mul] at hrow
  omega

/-- A block ends left of the right edge. -/
theorem blockCol_le (n : ℕ) : n % webPara.cols * webPara.blkW + webPara.blkW ≤ viW := by
  have hcol := Nat.mul_le_mul_right webPara.blkW (hweb.mod_lt n)
  have hall := webPara.cols_mul_blkW_le
  rw [Nat.succ_mul] at hcol
  omega

omit hweb in
/-- The chroma rows of a block, the extra one of an odd height included, end above the bottom of
the chroma plane. -/
theorem chromaRow_le {n : ℕ} (hn : n < webPara.cols * webPara.rows) :
    n / webPara.cols * webPara.blkH / 2 + (webPara.blkH + 1) / 2 ≤ viH / 2 := by
  have hrow := blockRow_le hn
  have hH : viH = 2160 := rfl
  omega

end WebPara.Valid

/-! ### The pointers -/

open WebPara.Valid

section Offsets

variable {webPara : WebPara} (hweb : webPara.Valid)

include hweb

theorem div_viW :
    Checked.div (Int32.ofNat viW) webPara.dstHorizontalBlks = .ok (Int32.ofNat webPara.blkW) := by
  have hpos : 0 < webPara.dstHorizontalBlks.toInt := hweb.one_le_cols
  rw [Checked.div_eq_ok _ (CInt.ne_zero_of_pos hweb.one_le_cols), CInt.ofNat_div (by decide) hpos]
  rfl

theorem div_viH :
    Checked.div (Int32.ofNat viH) webPara.dstVerticalBlks = .ok (Int32.ofNat webPara.blkH) := by
  have hpos : 0 < webPara.dstVerticalBlks.toInt := hweb.one_le_rows
  rw [Checked.div_eq_ok _ (CInt.ne_zero_of_pos hweb.one_le_rows), CInt.ofNat_div (by decide) hpos]
  rfl

theorem toNat_blks : (webPara.dstHorizontalBlks * webPara.dstVerticalBlks).toInt.toNat =
    webPara.cols * webPara.rows := by
  have hle := hweb.cells_le_max
  have hmax : maxLayerNums = 128 := rfl
  have hprod : webPara.dstHorizontalBlks.toInt * webPara.dstVerticalBlks.toInt =
      ((webPara.cols * webPara.rows : ℕ) : ℤ) := by
    rw [hweb.toInt_cols, hweb.toInt_rows, Nat.cast_mul]
  rw [CInt.toInt_mul_of_lt (by omega) (by omega), hprod, Int.toNat_natCast]

/-- The cell of a block number. -/
theorem div_mod_cols {n : ℕ} (hn : n < webPara.cols * webPara.rows) :
    Checked.div (Int32.ofNat n) webPara.dstHorizontalBlks =
        .ok (Int32.ofNat (n / webPara.cols)) ∧
      Checked.mod (Int32.ofNat n) webPara.dstHorizontalBlks =
        .ok (Int32.ofNat (n % webPara.cols)) := by
  have hpos : 0 < webPara.dstHorizontalBlks.toInt := hweb.one_le_cols
  have hne := CInt.ne_zero_of_pos hweb.one_le_cols
  have hmax := hweb.cells_le_max
  have hlt : n < 2 ^ 31 := by
    have h128 : maxLayerNums = 128 := rfl
    omega
  rw [Checked.div_eq_ok _ hne, Checked.mod_eq_ok _ hne, CInt.ofNat_div hlt hpos,
    CInt.ofNat_mod hlt hpos]
  exact ⟨rfl, rfl⟩

theorem toInt_col {n : ℕ} :
    (Int32.ofNat (n % webPara.cols) * Int32.ofNat webPara.blkW).toInt =
      (n % webPara.cols * webPara.blkW : ℕ) := by
  have hcol := hweb.blockCol_le n
  have hW : viW = 3840 := rfl
  rw [← Int32.ofNat_mul, Int32.toInt_ofNat_of_lt (by omega)]

/-- The luma pointer of a block. -/
theorem yOffset_eq_ok {n : ℕ} (hn : n < webPara.cols * webPara.rows) :
    yOffset webPara (Int32.ofNat webPara.blkW) (Int32.ofNat webPara.blkH) (Int32.ofNat n) =
      .ok (n / webPara.cols * webPara.blkH * viW + n % webPara.cols * webPara.blkW : ℕ) := by
  obtain ⟨hdiv, hmod⟩ := div_mod_cols hweb hn
  have hrow := blockRow_le hn
  have hoff : n / webPara.cols * webPara.blkH * viW ≤ viH * viW :=
    Nat.mul_le_mul_right viW (by omega)
  have hsize : viH * viW = 8294400 := rfl
  unfold yOffset
  rw [hdiv, hmod, Checked.ok_bind, Checked.ok_bind, toInt_col hweb, ← Int32.ofNat_mul,
    ← Int32.ofNat_mul, Int32.toInt_ofNat_of_lt (by omega), Nat.cast_add]
  rfl

/-- The chroma pointer of a block. -/
theorem uvOffset_eq_ok {n : ℕ} (hn : n < webPara.cols * webPara.rows) :
    uvOffset webPara (Int32.ofNat webPara.blkW) (Int32.ofNat webPara.blkH) (Int32.ofNat n) =
      .ok (n / webPara.cols * webPara.blkH / 2 * viW + n % webPara.cols * webPara.blkW : ℕ) := by
  obtain ⟨hdiv, hmod⟩ := div_mod_cols hweb hn
  have hrow := blockRow_le hn
  have hH : viH = 2160 := rfl
  have hoff : n / webPara.cols * webPara.blkH / 2 * viW ≤ viH * viW :=
    Nat.mul_le_mul_right viW (by omega)
  have hsize : viH * viW = 8294400 := rfl
  have hhalf : Int32.ofNat (n / webPara.cols * webPara.blkH) / 2 =
      Int32.ofNat (n / webPara.cols * webPara.blkH / 2) :=
    CInt.ofNat_div (by omega) (by decide)
  unfold uvOffset
  rw [hdiv, hmod, Checked.ok_bind, Checked.ok_bind, toInt_col hweb, ← Int32.ofNat_mul, hhalf,
    ← Int32.ofNat_mul, Int32.toInt_ofNat_of_lt (by omega), Nat.cast_add]
  rfl

end Offsets

/-! ### The rows of a block -/

/-- The pointers after `k` rows. -/
def Cursor.after (c : Cursor) (k : ℕ) : Cursor where
  srcY := c.srcY + k * viW
  dstY := c.dstY + k * viW
  srcUv := c.srcUv + (k / 2 : ℕ) * viW
  dstUv := c.dstUv + (k / 2 : ℕ) * viW

/-- The pointers move down a luma row, and after an odd row a chroma row. -/
theorem Cursor.after_succ (c : Cursor) (k : ℕ) :
    c.after (k + 1) =
      let c' := { c.after k with srcY := (c.after k).srcY + viW, dstY := (c.after k).dstY + viW }
      if k % 2 = 1 then { c' with srcUv := c'.srcUv + viW, dstUv := c'.dstUv + viW } else c' := by
  unfold Cursor.after
  dsimp only
  rcases Nat.mod_two_eq_zero_or_one k with heven | hodd
  · rw [if_neg (by omega), show (k + 1) / 2 = k / 2 by omega]
    congr 1 <;> push_cast <;> ring
  · rw [if_pos hodd, show (k + 1) / 2 = k / 2 + 1 by omega]
    congr 1 <;> push_cast <;> ring

/-- The pointers to the first row of two patches. -/
def cursor (p q : Patch) : Cursor where
  srcY := (p.srcRow * viW + p.srcCol : ℕ)
  dstY := (p.row * viW + p.col : ℕ)
  srcUv := (q.srcRow * viW + q.srcCol : ℕ)
  dstUv := (q.row * viW + q.col : ℕ)

/-- The pointers after `k` rows are those to the rows `k` and `k / 2` of the patches. -/
theorem cursor_after (p q : Patch) (k : ℕ) :
    (cursor p q).after k =
      cursor { p with row := p.row + k, srcRow := p.srcRow + k }
        { q with row := q.row + k / 2, srcRow := q.srcRow + k / 2 } := by
  unfold cursor Cursor.after
  rw [Cursor.mk.injEq]
  push_cast
  refine ⟨?_, ?_, ?_, ?_⟩ <;> ring

/-- A row is copied in both planes, and the pointers move on. -/
theorem copyRow_eq_ok {inF out : FrameData} {blkW : Int32} {c : Cursor} {k : ℕ}
    {outY : Vector UInt8 (viH * viW)} {outUv : Vector UInt8 (viH / 2 * viW)}
    (hy : Checked.memcpy out.y (c.after k).dstY inF.y (c.after k).srcY blkW.toInt.toNat =
      .ok outY)
    (huv : Checked.memcpy out.uv (c.after k).dstUv inF.uv (c.after k).srcUv blkW.toInt.toNat =
      .ok outUv) :
    copyRow inF blkW (c.after k, out) k = .ok (c.after (k + 1), ⟨outY, outUv⟩) := by
  unfold copyRow
  dsimp only
  rw [hy, Checked.ok_bind, huv, Checked.ok_bind, Cursor.after_succ]
  rfl

/-- The patch lies inside planes of `rows` rows. -/
structure Inside (p : Patch) (rows : ℕ) : Prop where
  row_le : p.row + p.height ≤ rows
  col_le : p.col + p.width ≤ viW
  srcRow_le : p.srcRow + p.height ≤ rows
  srcCol_le : p.srcCol + p.width ≤ viW

/-- The first rows of a patch. -/
def firstRows (p : Patch) (k : ℕ) : Patch := { p with height := k }

/-- After `k` rows the pointers are `k` luma rows and half as many chroma rows down, and the planes
hold the first rows of the two patches. -/
theorem copyRows_eq_ok (inF outF : FrameData) (blkW : Int32) {p q : Patch}
    (hp : Inside p viH) (hq : Inside q (viH / 2)) (hpw : p.width = blkW.toInt.toNat)
    (hqw : q.width = blkW.toInt.toNat) {k : ℕ} (hk : k ≤ p.height) (hkq : (k + 1) / 2 ≤ q.height) :
    ∃ out, (List.range k).foldlM (copyRow inF blkW) (cursor p q, outF) =
        .ok ((cursor p q).after k, out) ∧
      pixel viW out.y = paste (pixel viW inF.y) (pixel viW outF.y) (firstRows p k) ∧
      pixel viW out.uv =
        paste (pixel viW inF.uv) (pixel viW outF.uv) (firstRows q ((k + 1) / 2)) := by
  induction k with
  | zero =>
    refine ⟨outF, ?_, ?_, ?_⟩
    · simp [Cursor.after, cursor]
      rfl
    · ext i j : 2
      rw [paste_of_not_covers]
      unfold Covers firstRows
      dsimp only
      omega
    · ext i j : 2
      rw [paste_of_not_covers]
      unfold Covers firstRows
      dsimp only
      omega
  | succ k ih =>
    obtain ⟨out, hloop, hy, huv⟩ := ih (by omega) (by omega)
    have hrow := hp.row_le
    have hsrcRow := hp.srcRow_le
    have hrowUv := hq.row_le
    have hsrcRowUv := hq.srcRow_le
    obtain ⟨outY, houtY, hpixY⟩ := pixel_memcpy out.y inF.y
      (show p.row + k < viH by omega) hp.col_le (show p.srcRow + k < viH by omega) hp.srcCol_le
    obtain ⟨outUv, houtUv, hpixUv⟩ := pixel_memcpy out.uv inF.uv
      (show q.row + k / 2 < viH / 2 by omega) hq.col_le
      (show q.srcRow + k / 2 < viH / 2 by omega) hq.srcCol_le
    refine ⟨⟨outY, outUv⟩, ?_, ?_, ?_⟩
    · have hbody : copyRow inF blkW ((cursor p q).after k, out) k =
          .ok ((cursor p q).after (k + 1), ⟨outY, outUv⟩) := by
        apply copyRow_eq_ok
        · rw [cursor_after, ← hpw]
          exact houtY
        · rw [cursor_after, ← hqw]
          exact houtUv
      rw [List.range_succ, List.foldlM_append, hloop, Checked.ok_bind, List.foldlM_cons, hbody]
      rfl
    · rw [hpixY, hy]
      have hpaste := paste_paste_row (pixel viW inF.y) (pixel viW outF.y) p.row p.col p.srcRow
        p.srcCol p.width (le_refl k)
      rw [max_eq_right (Nat.le_succ k)] at hpaste
      exact hpaste
    · -- the row of an odd `k` is copied a second time
      rw [hpixUv, huv]
      have hpaste := paste_paste_row (pixel viW inF.uv) (pixel viW outF.uv) q.row q.col q.srcRow
        q.srcCol q.width (show k / 2 ≤ (k + 1) / 2 by omega)
      rw [show max ((k + 1) / 2) (k / 2 + 1) = (k + 1 + 1) / 2 by omega] at hpaste
      exact hpaste

/-! ### The blocks -/

section Blocks

variable {webPara : WebPara} (hweb : webPara.Valid)

include hweb

theorem inside_lumaPatch {i s : ℕ} (hi : i < webPara.cols * webPara.rows)
    (hs : s < webPara.cols * webPara.rows) : Inside (webPara.lumaPatch i s) viH where
  row_le := blockRow_le hi
  col_le := hweb.blockCol_le i
  srcRow_le := blockRow_le hs
  srcCol_le := hweb.blockCol_le s

theorem inside_chromaPatch {i s : ℕ} (hi : i < webPara.cols * webPara.rows)
    (hs : s < webPara.cols * webPara.rows) : Inside (webPara.chromaPatch i s) (viH / 2) where
  row_le := chromaRow_le hi
  col_le := hweb.blockCol_le i
  srcRow_le := chromaRow_le hs
  srcCol_le := hweb.blockCol_le s

/-- An empty block is left alone, any other is pasted from its source. -/
theorem copyBlock_eq_ok (inF outF : FrameData) {i : ℕ} (hi : i < webPara.cols * webPara.rows) :
    ∃ out, copyBlock inF webPara (Int32.ofNat webPara.blkW) (Int32.ofNat webPara.blkH) outF i =
        .ok out ∧
      pixel viW out.y = pasteAll (pixel viW inF.y) (pixel viW outF.y)
        ((webPara.source i).map (webPara.lumaPatch i)).toList ∧
      pixel viW out.uv = pasteAll (pixel viW inF.uv) (pixel viW outF.uv)
        ((webPara.source i).map (webPara.chromaPatch i)).toList := by
  obtain ⟨hlt, ⟨hempty, hnone⟩ | ⟨s, hs, hentry, hsome⟩⟩ := hweb.entry_cases hi
  · refine ⟨outF, ?_, by rw [hnone]; rfl, by rw [hnone]; rfl⟩
    unfold copyBlock
    rw [Checked.get_natCast _ hlt, Checked.ok_bind, if_neg (not_not_intro hempty)]
    rfl
  · have hwidth : (Int32.ofNat webPara.blkW).toInt.toNat = webPara.blkW := by
      have hle : webPara.blkW ≤ viW := Nat.div_le_self _ _
      have hW : viW = 3840 := rfl
      rw [Int32.toInt_ofNat_of_lt (by omega), Int.toNat_natCast]
    have hheight : (Int32.ofNat webPara.blkH).toInt.toNat = webPara.blkH := by
      have hle : webPara.blkH ≤ viH := Nat.div_le_self _ _
      have hH : viH = 2160 := rfl
      rw [Int32.toInt_ofNat_of_lt (by omega), Int.toNat_natCast]
    obtain ⟨out, hloop, hy, huv⟩ := copyRows_eq_ok inF outF (Int32.ofNat webPara.blkW)
      (inside_lumaPatch hweb hi hs) (inside_chromaPatch hweb hi hs) hwidth.symm hwidth.symm
      (le_refl webPara.blkH) (le_refl ((webPara.blkH + 1) / 2))
    have hne : ¬ (Int32.ofNat s = -1) := by
      intro h
      have hmax := hweb.cells_le_max
      have h128 : maxLayerNums = 128 := rfl
      have hval := congrArg Int32.toInt h
      rw [Int32.toInt_ofNat_of_lt (by omega)] at hval
      have hneg : (-1 : Int32).toInt = -1 := rfl
      omega
    refine ⟨out, ?_, by rw [hsome, hy]; rfl, by rw [hsome, huv]; rfl⟩
    unfold copyBlock
    rw [Checked.get_natCast _ hlt, Checked.ok_bind, hentry, if_pos hne, yOffset_eq_ok hweb hs,
      Checked.ok_bind, yOffset_eq_ok hweb hi, Checked.ok_bind, uvOffset_eq_ok hweb hs,
      Checked.ok_bind, uvOffset_eq_ok hweb hi, Checked.ok_bind, hheight]
    have hloop' : (List.range webPara.blkH).foldlM (copyRow inF (Int32.ofNat webPara.blkW))
        ({ srcY := (s / webPara.cols * webPara.blkH * viW + s % webPara.cols * webPara.blkW : ℕ)
           dstY := (i / webPara.cols * webPara.blkH * viW + i % webPara.cols * webPara.blkW : ℕ)
           srcUv :=
            (s / webPara.cols * webPara.blkH / 2 * viW + s % webPara.cols * webPara.blkW : ℕ)
           dstUv :=
            (i / webPara.cols * webPara.blkH / 2 * viW + i % webPara.cols * webPara.blkW : ℕ) },
          outF) = .ok ((cursor (webPara.lumaPatch i s) (webPara.chromaPatch i s)).after
            webPara.blkH, out) := hloop
    rw [hloop', Checked.ok_bind]
    rfl

/-- The composer pastes the patches of its layout, in the order of the blocks. -/
theorem reorganizeYUV_eq_ok (inF outF : FrameData) :
    ∃ out, reorganizeYUV inF outF webPara = .ok (out, 0) ∧
      pixel viW out.y = pasteAll (pixel viW inF.y) (pixel viW outF.y) webPara.lumaPatches ∧
      pixel viW out.uv = pasteAll (pixel viW inF.uv) (pixel viW outF.uv) webPara.chromaPatches := by
  have hblocks : ∀ n ≤ webPara.cols * webPara.rows, ∃ out,
      (List.range n).foldlM (copyBlock inF webPara (Int32.ofNat webPara.blkW)
        (Int32.ofNat webPara.blkH)) outF = .ok out ∧
      pixel viW out.y = pasteAll (pixel viW inF.y) (pixel viW outF.y)
        (webPara.patches webPara.lumaPatch n) ∧
      pixel viW out.uv = pasteAll (pixel viW inF.uv) (pixel viW outF.uv)
        (webPara.patches webPara.chromaPatch n) := by
    intro n hn
    induction n with
    | zero => exact ⟨outF, rfl, rfl, rfl⟩
    | succ n ih =>
      obtain ⟨out, hloop, hy, huv⟩ := ih (by omega)
      obtain ⟨out', hblock, hy', huv'⟩ := copyBlock_eq_ok hweb inF out (i := n) (by omega)
      refine ⟨out', ?_, ?_, ?_⟩
      · rw [List.range_succ, List.foldlM_append, hloop, Checked.ok_bind, List.foldlM_cons, hblock]
        rfl
      · rw [hy', hy, webPara.patches_succ, pasteAll_append]
      · rw [huv', huv, webPara.patches_succ, pasteAll_append]
  obtain ⟨out, hloop, hy, huv⟩ := hblocks _ le_rfl
  refine ⟨out, ?_, hy, huv⟩
  unfold reorganizeYUV
  rw [div_viW hweb, Checked.ok_bind, div_viH hweb, Checked.ok_bind]
  dsimp only
  rw [toNat_blks hweb]
  rw [hloop, Checked.ok_bind]
  rfl

end Blocks

/-! ### The patch of a position -/

section Positions

variable {webPara : WebPara}

theorem mem_patches {patch : ℕ → ℕ → Patch} {n : ℕ} {p : Patch} :
    p ∈ webPara.patches patch n ↔ ∃ i < n, ∃ s, webPara.source i = some s ∧ patch i s = p := by
  unfold WebPara.patches
  simp only [List.mem_filterMap, List.mem_range, Option.map_eq_some_iff]

/-- A position lies in one multiple of the block size. -/
theorem div_eq_iff_block {b r a : ℕ} (hb : 0 < b) : a * b ≤ r ∧ r < a * b + b ↔ r / b = a := by
  rw [Nat.div_eq_iff hb, Nat.mul_comm a b]
  omega

/-- A block number is that of its row and column. -/
theorem eq_index_iff {i a b : ℕ} (hb : b < webPara.cols) :
    i = a * webPara.cols + b ↔ i / webPara.cols = a ∧ i % webPara.cols = b := by
  constructor
  · rintro rfl
    exact ⟨GridLayout.index_div hb, GridLayout.index_mod hb⟩
  · rintro ⟨rfl, rfl⟩
    exact (Nat.div_add_mod' i webPara.cols).symm

variable (hweb : webPara.Valid)

include hweb

theorem blkH_pos : 16 ≤ webPara.blkH := by
  have hcells := hweb.cells_le_max
  have hrows : webPara.rows ≤ webPara.cols * webPara.rows :=
    Nat.le_mul_of_pos_left _ hweb.cols_pos
  have hmax : maxLayerNums = 128 := rfl
  calc 16 ≤ viH / 128 := by decide
    _ ≤ viH / webPara.rows := Nat.div_le_div_left (by omega) hweb.rows_pos

theorem blkW_pos : 30 ≤ webPara.blkW := by
  have hcells := hweb.cells_le_max
  have hcols : webPara.cols ≤ webPara.cols * webPara.rows :=
    Nat.le_mul_of_pos_right _ hweb.rows_pos
  have hmax : maxLayerNums = 128 := rfl
  calc 30 ≤ viW / 128 := by decide
    _ ≤ viW / webPara.cols := Nat.div_le_div_left (by omega) hweb.cols_pos

end Positions

/-! ### The layout of the fixed mode -/

/-- 16 rows of 8 blocks, each shown in its own place. -/
def identityLayout : WebPara where
  dstHorizontalBlks := 8
  dstVerticalBlks := 16
  layerLayoutTab := Vector.ofFn fun i => Int32.ofNat i

theorem identityLayout_valid : identityLayout.Valid := by
  refine ⟨by decide, by decide, by decide, fun i hi _ => ?_⟩
  have h128 : maxLayerNums = 128 := rfl
  unfold identityLayout
  rw [Vector.getElem_ofFn, Int32.toInt_ofNat_of_lt (by dsimp only; omega)]
  right
  constructor
  · exact Int.natCast_nonneg _
  · show (i : ℤ) < 128
    omega

/-- A frame whose samples all hold the number of their row. -/
def rampFrame : FrameData where
  y := Vector.ofFn fun k => UInt8.ofNat (k / viW)
  uv := Vector.ofFn fun k => UInt8.ofNat (k / viW)

/-- A frame of zeros. -/
def blankFrame : FrameData where
  y := Vector.replicate _ 0
  uv := Vector.replicate _ 0

theorem pixel_rampFrame_y {row : ℕ} (hrow : row < viH) :
    pixel viW rampFrame.y row 0 = some (UInt8.ofNat row) := by
  have hlt : row * viW + 0 < viH * viW := GridLayout.index_lt hrow (by decide)
  unfold pixel rampFrame
  rw [if_pos (by decide), Vector.getElem?_ofFn, dif_pos hlt, GridLayout.index_div (by decide)]

theorem pixel_blankFrame_y {row : ℕ} (hrow : row < viH) :
    pixel viW blankFrame.y row 0 = some 0 := by
  have hlt : row * viW + 0 < viH * viW := GridLayout.index_lt hrow (by decide)
  unfold pixel blankFrame
  rw [if_pos (by decide), Vector.getElem?_replicate, if_pos hlt]

theorem pixel_rampFrame_uv {row : ℕ} (hrow : row < viH / 2) :
    pixel viW rampFrame.uv row 0 = some (UInt8.ofNat row) := by
  have hlt : row * viW + 0 < viH / 2 * viW := GridLayout.index_lt hrow (by decide)
  unfold pixel rampFrame
  rw [if_pos (by decide), Vector.getElem?_ofFn, dif_pos hlt, GridLayout.index_div (by decide)]

end Mvr.Vif
