import Mvr.Raster.Compose
import Mvr.Vif.Equiv.Coverage
import Mathlib.Data.Fintype.EquivFin

/-!
# Layouts as rearrangements of a frame

Composing a composed frame once more is composing once with the composed table
(`reorganizeYUV_reorganizeYUV`).  On a grid that fills the frame, tables that undo each other give
the frame back (`reorganizeYUV_undo`), and the composed frame determines the captured one exactly
when the layout shows every block (`reorganizeYUV_injective_iff`).

Both planes are followed by the cells of the grid: `origin_luma` and `origin_chroma` say where the
sample of a cell comes from.
-/

namespace Mvr.Vif

open Patch

namespace WebPara

/-- The layout of two passes: block `i` shows what the first layout shows in the block that the
second one shows in `i`. -/
def comp (first second : WebPara) : WebPara :=
  { second with
    layerLayoutTab := second.layerLayoutTab.map fun layerId =>
      if layerId = -1 then -1 else first.layerLayoutTab[layerId.toInt.toNat]?.getD (-1) }

/-- Every cell shows a block. -/
def Full (webPara : WebPara) : Prop :=
  ∀ i < webPara.cols * webPara.rows, webPara.source i ≠ none

/-- The blocks tile the frame. -/
structure Fills (webPara : WebPara) : Prop where
  cols_dvd : webPara.cols ∣ viW
  rows_dvd : webPara.rows ∣ viH

/-- Two layouts of the same grid. -/
structure SameGrid (first second : WebPara) : Prop where
  cols_eq : first.cols = second.cols
  rows_eq : first.rows = second.rows

end WebPara

/-! ### The origins, by the cells of the grid -/

section Origins

variable {webPara : WebPara} (hweb : webPara.Valid)

include hweb

/-- The origin of the luma sample of a cell. -/
theorem origin_luma {a c y x : ℕ} (ha : a < webPara.rows) (hc : c < webPara.cols)
    (hy : y < webPara.blkH) (hx : x < webPara.blkW) :
    origin webPara.lumaPatches (a * webPara.blkH + y) (c * webPara.blkW + x) =
      (webPara.cell a c).map fun s => (s.1 * webPara.blkH + y, s.2 * webPara.blkW + x) := by
  rw [origin_lumaPatches hweb, if_pos ⟨GridLayout.index_lt ha hy, GridLayout.index_lt hc hx⟩,
    GridLayout.index_div hy, GridLayout.index_div hx, GridLayout.index_mod hy,
    GridLayout.index_mod hx]
  unfold WebPara.cell
  rw [Option.map_map]
  rfl

/-- Nothing is copied to the samples beside the grid. -/
theorem origin_luma_outside {i j : ℕ}
    (h : ¬ (i < webPara.rows * webPara.blkH ∧ j < webPara.cols * webPara.blkW)) :
    origin webPara.lumaPatches i j = none := by
  rw [origin_lumaPatches hweb, if_neg h]

/-- A luma sample with an origin lies in a cell that shows a block. -/
theorem exists_cell_of_origin_luma {i j : ℕ} {o : ℕ × ℕ}
    (h : origin webPara.lumaPatches i j = some o) :
    ∃ a < webPara.rows, ∃ c < webPara.cols, ∃ y < webPara.blkH, ∃ x < webPara.blkW, ∃ s,
      webPara.cell a c = some s ∧ i = a * webPara.blkH + y ∧ j = c * webPara.blkW + x ∧
        o = (s.1 * webPara.blkH + y, s.2 * webPara.blkW + x) := by
  have hbh := blkH_pos hweb
  have hbw := blkW_pos hweb
  have horigin := h
  rw [origin_lumaPatches hweb] at h
  split_ifs at h with hin
  have ha : i / webPara.blkH < webPara.rows :=
    Nat.div_lt_of_lt_mul (by rw [Nat.mul_comm]; exact hin.1)
  have hc : j / webPara.blkW < webPara.cols :=
    Nat.div_lt_of_lt_mul (by rw [Nat.mul_comm]; exact hin.2)
  have hy : i % webPara.blkH < webPara.blkH := Nat.mod_lt _ (by omega)
  have hx : j % webPara.blkW < webPara.blkW := Nat.mod_lt _ (by omega)
  have hcell := origin_luma hweb ha hc hy hx
  rw [Nat.div_add_mod', Nat.div_add_mod', horigin] at hcell
  obtain ⟨s, hs, ho⟩ := Option.map_eq_some_iff.mp hcell.symm
  exact ⟨_, ha, _, hc, _, hy, _, hx, s, hs, (Nat.div_add_mod' _ _).symm,
    (Nat.div_add_mod' _ _).symm, ho.symm⟩

/-- The origin of a byte in the chroma rows of a cell that shows a block. -/
theorem origin_chroma (hal : webPara.ChromaAligned) {a c y x : ℕ} {s : ℕ × ℕ}
    (ha : a < webPara.rows) (hc : c < webPara.cols) (hcell : webPara.cell a c = some s)
    (hy : y < (webPara.blkH + 1) / 2) (hx : x < webPara.blkW) :
    origin webPara.chromaPatches (a * webPara.blkH / 2 + y) (c * webPara.blkW + x) =
      some (s.1 * webPara.blkH / 2 + y, s.2 * webPara.blkW + x) := by
  have hcov : (webPara.chromaBlock a c s.1 s.2).Covers (a * webPara.blkH / 2 + y)
      (c * webPara.blkW + x) := by
    rw [covers_chromaBlock_iff hweb]
    exact ⟨⟨by omega, by omega⟩, GridLayout.index_div hx⟩
  rw [chroma_agree hweb hal ha hc hcell hcov]
  unfold place WebPara.chromaBlock
  dsimp only
  rw [Nat.add_sub_cancel_left, Nat.add_sub_cancel_left]

/-- A chroma byte with an origin lies in the chroma rows of a cell that shows a block. -/
theorem exists_cell_of_origin_chroma (hal : webPara.ChromaAligned) {i j : ℕ} {o : ℕ × ℕ}
    (h : origin webPara.chromaPatches i j = some o) :
    ∃ a < webPara.rows, ∃ c < webPara.cols, ∃ y < (webPara.blkH + 1) / 2, ∃ x < webPara.blkW,
      ∃ s, webPara.cell a c = some s ∧ i = a * webPara.blkH / 2 + y ∧ j = c * webPara.blkW + x ∧
        o = (s.1 * webPara.blkH / 2 + y, s.2 * webPara.blkW + x) := by
  have hbw := blkW_pos hweb
  obtain ⟨p, hp, hcov⟩ : ∃ p ∈ webPara.chromaPatches, p.Covers i j := by
    by_contra hnone
    push Not at hnone
    rw [origin_eq_none_iff.mpr hnone] at h
    cases h
  obtain ⟨a, ha, c, hc, a', c', hcell, rfl⟩ := (mem_chromaPatches_iff hweb).mp hp
  obtain ⟨⟨hlo, hhi⟩, rfl⟩ := (covers_chromaBlock_iff hweb).mp hcov
  have hy : i - a * webPara.blkH / 2 < (webPara.blkH + 1) / 2 := by omega
  have hx : j % webPara.blkW < webPara.blkW := Nat.mod_lt _ (by omega)
  have hi : i = a * webPara.blkH / 2 + (i - a * webPara.blkH / 2) := by omega
  refine ⟨a, ha, _, hc, _, hy, _, hx, _, hcell, hi, (Nat.div_add_mod' _ _).symm, ?_⟩
  have horigin := origin_chroma hweb hal ha hc hcell hy hx
  rw [← hi, Nat.div_add_mod', h] at horigin
  exact Option.some.inj horigin

end Origins

/-! ### Two passes -/

section Comp

variable {first second : WebPara}

namespace WebPara.SameGrid

variable (hgrid : first.SameGrid second)

include hgrid

theorem blkH_eq : first.blkH = second.blkH := by
  unfold WebPara.blkH
  rw [hgrid.rows_eq]

theorem blkW_eq : first.blkW = second.blkW := by
  unfold WebPara.blkW
  rw [hgrid.cols_eq]

end WebPara.SameGrid

/-- The second layout names a block, and the first layout shows a block there. -/
theorem source_comp (hsecond : second.Valid) {i : ℕ} (hi : i < second.cols * second.rows) :
    (first.comp second).source i = (second.source i).bind first.source := by
  obtain ⟨hlt, ⟨hempty, hnone⟩ | ⟨s, hs, hentry, hsome⟩⟩ := hsecond.entry_cases hi
  · rw [hnone, Option.bind_none]
    unfold WebPara.source WebPara.comp
    dsimp only
    rw [Vector.getElem?_map, Vector.getElem?_eq_getElem hlt, hempty]
    rfl
  · have hmax := hsecond.cells_le_max
    have h128 : maxLayerNums = 128 := rfl
    have hint : (Int32.ofNat s).toInt = s := Int32.toInt_ofNat_of_lt (by omega)
    have hne : Int32.ofNat s ≠ -1 := by
      rw [Ne, ← Int32.toInt_inj, hint, show Int32.toInt (-1) = -1 from rfl]
      omega
    rw [hsome, Option.bind_some]
    unfold WebPara.source WebPara.comp
    dsimp only
    rw [Vector.getElem?_map, Vector.getElem?_eq_getElem hlt, hentry, Option.map_some, if_neg hne,
      hint, Int.toNat_natCast, Vector.getElem?_eq_getElem (by omega)]
    rfl

theorem cell_comp (hsecond : second.Valid) (hgrid : first.SameGrid second) {a c : ℕ}
    (ha : a < second.rows) (hc : c < second.cols) :
    (first.comp second).cell a c = (second.cell a c).bind fun s => first.cell s.1 s.2 := by
  have hi := GridLayout.index_lt ha hc
  rw [Nat.mul_comm second.rows] at hi
  have hsource : (first.comp second).source (a * second.cols + c) =
      (second.source (a * second.cols + c)).bind first.source := source_comp hsecond hi
  unfold WebPara.cell
  rw [show (first.comp second).cols = second.cols from rfl, hsource, hgrid.cols_eq]
  cases second.source (a * second.cols + c) with
  | none => rfl
  | some s =>
    rw [Option.bind_some, Option.map_some, Option.bind_some, Nat.div_add_mod']

theorem comp_valid (hfirst : first.Valid) (hsecond : second.Valid)
    (hgrid : first.SameGrid second) : (first.comp second).Valid where
  one_le_cols := hsecond.one_le_cols
  one_le_rows := hsecond.one_le_rows
  cells_le := hsecond.cells_le
  entry i hi hlt := by
    have hcells : first.cols * first.rows = second.cols * second.rows := by
      rw [hgrid.cols_eq, hgrid.rows_eq]
    have hprod : second.dstHorizontalBlks.toInt * second.dstVerticalBlks.toInt =
        (second.cols * second.rows : ℕ) := by
      rw [hsecond.toInt_cols, hsecond.toInt_rows, Nat.cast_mul]
    have hi' : i < second.cols * second.rows := by
      have h : (i : ℤ) < second.dstHorizontalBlks.toInt * second.dstVerticalBlks.toInt := hlt
      rw [hprod] at h
      exact_mod_cast h
    have hmax := hsecond.cells_le_max
    have h128 : maxLayerNums = 128 := rfl
    unfold WebPara.comp
    dsimp only
    rw [Vector.getElem_map, hprod]
    obtain ⟨hi, ⟨hempty, -⟩ | ⟨s, hs, hentry, -⟩⟩ := hsecond.entry_cases hi'
    · left
      rw [hempty]
      rfl
    · have hint : (Int32.ofNat s).toInt = s := Int32.toInt_ofNat_of_lt (by omega)
      have hne : Int32.ofNat s ≠ -1 := by
        rw [Ne, ← Int32.toInt_inj, hint, show Int32.toInt (-1) = -1 from rfl]
        omega
      rw [hentry, if_neg hne, hint, Int.toNat_natCast, Vector.getElem?_eq_getElem (by omega),
        Option.getD_some]
      obtain ⟨hlt', ⟨hempty, -⟩ | ⟨s', hs', hentry', -⟩⟩ := hfirst.entry_cases (hcells ▸ hs)
      · left
        rw [hempty]
        rfl
      · right
        rw [hentry', Int32.toInt_ofNat_of_lt (by omega)]
        omega

/-- Layouts that keep the colours compose to one that does. -/
theorem comp_aligned (hsecond : second.Valid) (hgrid : first.SameGrid second)
    (hal₁ : first.ChromaAligned) (hal₂ : second.ChromaAligned) :
    (first.comp second).ChromaAligned := by
  have hcell : ∀ {a c a' c'}, a < second.rows → c < second.cols →
      (first.comp second).cell a c = some (a', c') → ∃ s t, second.cell a c = some (s, t) ∧
        s < first.rows ∧ t < first.cols ∧ first.cell s t = some (a', c') := by
    intro a c a' c' ha hc h
    rw [cell_comp hsecond hgrid ha hc, Option.bind_eq_some_iff] at h
    obtain ⟨⟨s, t⟩, hst, h⟩ := h
    obtain ⟨hs, ht⟩ := cell_lt hsecond ha hc hst
    exact ⟨s, t, hst, hgrid.rows_eq ▸ hs, hgrid.cols_eq ▸ ht, h⟩
  have hbind : ∀ {a c s t}, a < second.rows → c < second.cols → second.cell a c = some (s, t) →
      (first.comp second).cell a c = first.cell s t := by
    intro a c s t ha hc h
    rw [cell_comp hsecond hgrid ha hc, h, Option.bind_some]
  have hrows : (first.comp second).rows = second.rows := rfl
  have hcols : (first.comp second).cols = second.cols := rfl
  have hH : (first.comp second).blkH = second.blkH := rfl
  have hW : (first.comp second).blkW = second.blkW := rfl
  rw [← hgrid.blkH_eq] at hH
  rw [← hgrid.blkW_eq] at hW
  constructor
  · intro hodd a ha c hc a' c' h
    obtain ⟨s, t, hst, hs, ht, h⟩ := hcell ha hc h
    rw [hal₁.row_mod (hH ▸ hodd) s hs t ht a' c' h,
      hal₂.row_mod hodd a ha c hc s t hst]
  · intro hodd a ha c hc a' c' h heven
    obtain ⟨s, t, hst, hs, ht, h⟩ := hcell (by omega) hc h
    have hpar := hal₂.row_mod hodd a (by omega) c hc s t hst
    rcases hal₂.below hodd a ha c hc s t hst heven with hnone | hnext
    · left
      rw [cell_comp hsecond hgrid ha hc, hnone, Option.bind_none]
    · have hs' := (cell_lt hsecond ha hc hnext).1
      rw [hbind ha hc hnext]
      exact hal₁.below (hH ▸ hodd) s (by rw [hgrid.rows_eq]; omega) t ht a' c' h (by omega)
  · intro hodd a ha c hc a' c' h
    obtain ⟨s, t, hst, hs, ht, h⟩ := hcell ha hc h
    rw [hal₁.col_mod (hW ▸ hodd) s hs t ht a' c' h,
      hal₂.col_mod hodd a ha c hc s t hst]
  · intro hodd a ha c hc a' c' h heven
    obtain ⟨s, t, hst, hs, ht, h⟩ := hcell ha hc h
    have hpar := hal₂.col_mod hodd a ha c hc s t hst
    obtain ⟨hc', hnext⟩ := hal₂.right hodd a ha c hc s t hst heven
    refine ⟨hc', ?_⟩
    rw [hbind ha hc' hnext]
    exact (hal₁.right (hW ▸ hodd) s hs t ht a' c' h (by omega)).2
  · intro hodd a ha c hc a' c' h heven
    obtain ⟨s, t, hst, hs, ht, h⟩ := hcell ha hc h
    have hpar := hal₂.col_mod hodd a ha (c + 1) hc s t hst
    obtain ⟨t', rfl, hnext⟩ := hal₂.left hodd a ha c hc s t hst heven
    rw [hbind ha (Nat.lt_of_succ_lt hc) hnext]
    exact hal₁.left (hW ▸ hodd) s hs t' ht a' c' h (by omega)

theorem full_cell (hfull : first.Full) {a c : ℕ} (ha : a < first.rows) (hc : c < first.cols) :
    ∃ s, first.cell a c = some s := by
  have hi := GridLayout.index_lt ha hc
  rw [Nat.mul_comm first.rows] at hi
  obtain ⟨s, hs⟩ := Option.ne_none_iff_exists'.mp (hfull _ hi)
  unfold WebPara.cell
  exact ⟨_, Option.map_eq_some_iff.mpr ⟨s, hs, rfl⟩⟩

/-- A frame is determined by the pictures of its planes. -/
theorem frame_ext {out out' : FrameData} (hy : pixel viW out.y = pixel viW out'.y)
    (huv : pixel viW out.uv = pixel viW out'.uv) : out = out' := by
  obtain ⟨y, uv⟩ := out
  obtain ⟨y', uv'⟩ := out'
  obtain rfl : y = y' := eq_of_pixel_eq fun i _ j _ => congrFun (congrFun hy i) j
  obtain rfl : uv = uv' := eq_of_pixel_eq fun i _ j _ => congrFun (congrFun huv i) j
  rfl

section Passes

variable (hfirst : first.Valid) (hsecond : second.Valid) (hgrid : first.SameGrid second)

include hfirst hsecond hgrid

theorem origin_luma_comp (i j : ℕ) :
    origin (first.comp second).lumaPatches i j =
      (origin second.lumaPatches i j).bind fun o => origin first.lumaPatches o.1 o.2 := by
  have hcomp := comp_valid hfirst hsecond hgrid
  have hbh := blkH_pos hsecond
  have hbw := blkW_pos hsecond
  by_cases hin : i < second.rows * second.blkH ∧ j < second.cols * second.blkW
  · have ha : i / second.blkH < second.rows :=
      Nat.div_lt_of_lt_mul (by rw [Nat.mul_comm]; exact hin.1)
    have hc : j / second.blkW < second.cols :=
      Nat.div_lt_of_lt_mul (by rw [Nat.mul_comm]; exact hin.2)
    have hy : i % second.blkH < second.blkH := Nat.mod_lt _ (by omega)
    have hx : j % second.blkW < second.blkW := Nat.mod_lt _ (by omega)
    have hlast := origin_luma hsecond ha hc hy hx
    have hall := origin_luma hcomp (a := i / second.blkH) (c := j / second.blkW) ha hc hy hx
    rw [cell_comp hsecond hgrid ha hc] at hall
    rw [show (first.comp second).blkH = second.blkH from rfl,
      show (first.comp second).blkW = second.blkW from rfl] at hall
    rw [Nat.div_add_mod', Nat.div_add_mod'] at hall hlast
    rw [hall, hlast]
    cases hcell : second.cell (i / second.blkH) (j / second.blkW) with
    | none => rfl
    | some s =>
      obtain ⟨hs, ht⟩ := cell_lt hsecond ha hc hcell
      rw [← hgrid.rows_eq] at hs
      rw [← hgrid.cols_eq] at ht
      rw [← hgrid.blkH_eq] at hy ⊢
      rw [← hgrid.blkW_eq] at hx ⊢
      rw [Option.bind_some, Option.map_some, Option.bind_some, origin_luma hfirst hs ht hy hx]
  · have hall : origin (first.comp second).lumaPatches i j = none := origin_luma_outside hcomp hin
    rw [hall, origin_luma_outside hsecond hin, Option.bind_none]

theorem origin_chroma_comp (hfull : first.Full) (hal₁ : first.ChromaAligned)
    (hal₂ : second.ChromaAligned) (i j : ℕ) :
    origin (first.comp second).chromaPatches i j =
      (origin second.chromaPatches i j).bind fun o => origin first.chromaPatches o.1 o.2 := by
  have hcomp := comp_valid hfirst hsecond hgrid
  have hal := comp_aligned hsecond hgrid hal₁ hal₂
  cases hlast : origin second.chromaPatches i j with
  | none =>
    rw [Option.bind_none]
    by_contra hne
    obtain ⟨o, ho⟩ := Option.ne_none_iff_exists'.mp hne
    obtain ⟨a, ha, c, hc, y, hy, x, hx, s, hcell, rfl, rfl, -⟩ :=
      exists_cell_of_origin_chroma hcomp hal ho
    rw [cell_comp hsecond hgrid ha hc, Option.bind_eq_some_iff] at hcell
    obtain ⟨t, hcell, -⟩ := hcell
    have hsome := origin_chroma hsecond hal₂ ha hc hcell hy hx
    exact absurd (hlast.symm.trans hsome) (by simp)
  | some o =>
    obtain ⟨a, ha, c, hc, y, hy, x, hx, s, hcell, rfl, rfl, rfl⟩ :=
      exists_cell_of_origin_chroma hsecond hal₂ hlast
    obtain ⟨hs, ht⟩ := cell_lt hsecond ha hc hcell
    rw [← hgrid.rows_eq] at hs
    rw [← hgrid.cols_eq] at ht
    obtain ⟨s', hcell'⟩ := full_cell hfull hs ht
    have hall : (first.comp second).cell a c = some s' := by
      rw [cell_comp hsecond hgrid ha hc, hcell, Option.bind_some, hcell']
    have horigin := origin_chroma hcomp hal (a := a) (c := c) ha hc hall hy hx
    rw [Option.bind_some]
    rw [← hgrid.blkH_eq] at hy ⊢
    rw [← hgrid.blkW_eq] at hx ⊢
    rw [origin_chroma hfirst hal₁ hs ht hcell' hy hx, hgrid.blkH_eq, hgrid.blkW_eq]
    exact horigin

/-- Composing a composed frame is composing with the composed layout, whatever the buffer of the
first pass held. -/
theorem reorganizeYUV_reorganizeYUV (hfull : first.Full) (hal₁ : first.ChromaAligned)
    (hal₂ : second.ChromaAligned) (inF bufF outF : FrameData) :
    ∃ mid out, reorganizeYUV inF bufF first = .ok (mid, 0) ∧
      reorganizeYUV mid outF second = .ok (out, 0) ∧
      reorganizeYUV inF outF (first.comp second) = .ok (out, 0) := by
  obtain ⟨mid, hmid, hmidY, hmidUv⟩ := reorganizeYUV_eq_ok hfirst inF bufF
  obtain ⟨out, hout, houtY, houtUv⟩ := reorganizeYUV_eq_ok hsecond mid outF
  obtain ⟨out', hout', houtY', houtUv'⟩ :=
    reorganizeYUV_eq_ok (comp_valid hfirst hsecond hgrid) inF outF
  refine ⟨mid, out, hmid, hout, ?_⟩
  -- the second pass reads only what the first one has written
  have hluma : pixel viW out.y = pixel viW out'.y := by
    rw [houtY, houtY', hmidY]
    apply pasteAll_pasteAll (origin_luma_comp hfirst hsecond hgrid)
    intro i j o ho
    obtain ⟨a, ha, c, hc, y, hy, x, hx, s, hcell, rfl, rfl, rfl⟩ :=
      exists_cell_of_origin_luma hsecond ho
    obtain ⟨hs, ht⟩ := cell_lt hsecond ha hc hcell
    rw [← hgrid.rows_eq] at hs
    rw [← hgrid.cols_eq] at ht
    obtain ⟨s', hcell'⟩ := full_cell hfull hs ht
    rw [← hgrid.blkH_eq] at hy ⊢
    rw [← hgrid.blkW_eq] at hx ⊢
    rw [origin_luma hfirst hs ht hy hx, hcell', Option.map_some]
    exact Option.some_ne_none _
  have hchroma : pixel viW out.uv = pixel viW out'.uv := by
    rw [houtUv, houtUv', hmidUv]
    apply pasteAll_pasteAll (origin_chroma_comp hfirst hsecond hgrid hfull hal₁ hal₂)
    intro i j o ho
    obtain ⟨a, ha, c, hc, y, hy, x, hx, s, hcell, rfl, rfl, rfl⟩ :=
      exists_cell_of_origin_chroma hsecond hal₂ ho
    obtain ⟨hs, ht⟩ := cell_lt hsecond ha hc hcell
    rw [← hgrid.rows_eq] at hs
    rw [← hgrid.cols_eq] at ht
    obtain ⟨s', hcell'⟩ := full_cell hfull hs ht
    rw [← hgrid.blkH_eq] at hy ⊢
    rw [← hgrid.blkW_eq] at hx ⊢
    rw [origin_chroma hfirst hal₁ hs ht hcell' hy hx]
    exact Option.some_ne_none _
  rw [hout', frame_ext hluma hchroma]

end Passes

end Comp

/-! ### Tables that undo each other -/

section Identity

variable {webPara : WebPara}

namespace WebPara.Fills

variable (hfills : webPara.Fills)

include hfills

theorem rows_mul_blkH : webPara.rows * webPara.blkH = viH := Nat.mul_div_cancel' hfills.rows_dvd

theorem cols_mul_blkW : webPara.cols * webPara.blkW = viW := Nat.mul_div_cancel' hfills.cols_dvd

/-- Every row lies in a row of blocks. -/
theorem div_blkH_lt {i : ℕ} (hi : i < viH) : i / webPara.blkH < webPara.rows :=
  Nat.div_lt_of_lt_mul (by rwa [Nat.mul_comm, hfills.rows_mul_blkH])

theorem div_blkW_lt {j : ℕ} (hj : j < viW) : j / webPara.blkW < webPara.cols :=
  Nat.div_lt_of_lt_mul (by rwa [Nat.mul_comm, hfills.cols_mul_blkW])

end WebPara.Fills

variable (hweb : webPara.Valid) (hfills : webPara.Fills)
  (h : ∀ i < webPara.cols * webPara.rows, webPara.source i = some i)

include h

theorem cell_of_source_self {a c : ℕ} (ha : a < webPara.rows) (hc : c < webPara.cols) :
    webPara.cell a c = some (a, c) := by
  have hi := GridLayout.index_lt ha hc
  rw [Nat.mul_comm webPara.rows] at hi
  exact cell_eq_some_iff.mpr ⟨_, h _ hi, GridLayout.index_div hc, GridLayout.index_mod hc⟩

include hfills

/-- A table of the blocks' own numbers keeps the colours. -/
theorem aligned_of_source_self : webPara.ChromaAligned := by
  have hcell : ∀ a < webPara.rows, ∀ c < webPara.cols, webPara.cell a c = some (a, c) :=
    fun a ha c hc => cell_of_source_self h ha hc
  constructor
  · intro _ a ha c hc a' c' hs
    rw [hcell a ha c hc] at hs
    cases hs
    rfl
  · intro _ a ha c hc a' c' hs _
    rw [hcell a (by omega) c hc] at hs
    cases hs
    exact Or.inr (hcell (a + 1) ha c hc)
  · intro _ a ha c hc a' c' hs
    rw [hcell a ha c hc] at hs
    cases hs
    rfl
  · intro hodd a ha c hc a' c' hs heven
    rw [hcell a ha c hc] at hs
    cases hs
    -- with odd blocks the even row of the frame has an even number of them
    have hcols := mul_mod_two hodd webPara.cols
    rw [hfills.cols_mul_blkW, show viW % 2 = 0 from rfl] at hcols
    have hc' : c + 1 < webPara.cols := by omega
    exact ⟨hc', hcell a ha (c + 1) hc'⟩
  · intro _ a ha c hc a' c' hs _
    rw [hcell a ha (c + 1) hc] at hs
    cases hs
    exact ⟨c, rfl, hcell a ha c (by omega)⟩

include hweb

/-- Such a table copies the whole frame. -/
theorem reorganizeYUV_of_source_self (inF outF : FrameData) :
    reorganizeYUV inF outF webPara = .ok (inF, 0) := by
  have hal := aligned_of_source_self hfills h
  have hbh := blkH_pos hweb
  have hbw := blkW_pos hweb
  obtain ⟨out, hout, hy, huv⟩ := reorganizeYUV_eq_ok hweb inF outF
  have hluma : out.y = inF.y := by
    apply eq_of_pixel_eq
    intro i hi j hj
    have horigin := origin_luma hweb (hfills.div_blkH_lt hi) (hfills.div_blkW_lt hj)
      (Nat.mod_lt i (show 0 < webPara.blkH by omega))
      (Nat.mod_lt j (show 0 < webPara.blkW by omega))
    rw [cell_of_source_self h (hfills.div_blkH_lt hi) (hfills.div_blkW_lt hj), Option.map_some,
      Nat.div_add_mod', Nat.div_add_mod'] at horigin
    rw [hy, pasteAll_of_origin_self horigin]
  have hchroma : out.uv = inF.uv := by
    apply eq_of_pixel_eq
    intro i hi j hj
    obtain ⟨a, ha, c, hc, hcov⟩ :=
      exists_covers_chroma hweb hfills.cols_dvd hfills.rows_dvd hi hj
    obtain ⟨⟨hlo, hhi⟩, rfl⟩ := (covers_chromaBlock_iff hweb).mp (hcov a (j / webPara.blkW))
    have horigin := origin_chroma hweb hal ha hc (cell_of_source_self h ha hc)
      (show i - a * webPara.blkH / 2 < (webPara.blkH + 1) / 2 by omega)
      (Nat.mod_lt j (show 0 < webPara.blkW by omega))
    rw [show a * webPara.blkH / 2 + (i - a * webPara.blkH / 2) = i by omega,
      Nat.div_add_mod'] at horigin
    rw [huv, pasteAll_of_origin_self horigin]
  obtain ⟨y, uv⟩ := out
  obtain rfl : y = inF.y := hluma
  obtain rfl : uv = inF.uv := hchroma
  exact hout

end Identity

/-- A table that another one undoes is full. -/
theorem full_of_undo {first second : WebPara} (hsecond : second.Valid)
    (hgrid : first.SameGrid second)
    (hundo : ∀ i < second.cols * second.rows, (second.source i).bind first.source = some i) :
    first.Full := by
  rw [WebPara.Full, hgrid.cols_eq, hgrid.rows_eq]
  have hsome : ∀ i : Fin (second.cols * second.rows), ∃ s : Fin (second.cols * second.rows),
      first.source s = some i.val := by
    intro i
    obtain ⟨s, hs, hi⟩ := Option.bind_eq_some_iff.mp (hundo i i.isLt)
    exact ⟨⟨s, hsecond.source_lt i.isLt hs⟩, hi⟩
  choose f hf using hsome
  have hinj : Function.Injective f := by
    intro i j hij
    have hi := hf i
    rw [hij, hf j] at hi
    exact Fin.ext (Option.some.inj hi).symm
  intro s hs
  obtain ⟨i, hi⟩ := Finite.injective_iff_surjective.mp hinj ⟨s, hs⟩
  have hshown := hf i
  rw [hi] at hshown
  rw [hshown]
  exact Option.some_ne_none _

/-- **Undoing a layout**: when the second table names for every block the place where the first one
shows it, the two passes give the captured frame back. -/
theorem reorganizeYUV_undo {first second : WebPara} (hfirst : first.Valid)
    (hsecond : second.Valid) (hgrid : first.SameGrid second) (hfills : second.Fills)
    (hal₁ : first.ChromaAligned) (hal₂ : second.ChromaAligned)
    (hundo : ∀ i < second.cols * second.rows, (second.source i).bind first.source = some i)
    (inF bufF outF : FrameData) :
    ∃ mid, reorganizeYUV inF bufF first = .ok (mid, 0) ∧
      reorganizeYUV mid outF second = .ok (inF, 0) := by
  obtain ⟨mid, out, hmid, hout, hcomp⟩ := reorganizeYUV_reorganizeYUV hfirst hsecond hgrid
    (full_of_undo hsecond hgrid hundo) hal₁ hal₂ inF bufF outF
  refine ⟨mid, hmid, ?_⟩
  have hself := reorganizeYUV_of_source_self (comp_valid hfirst hsecond hgrid)
    ⟨hfills.cols_dvd, hfills.rows_dvd⟩
    (fun i hi => (source_comp hsecond hi).trans (hundo i hi)) inF outF
  rw [hself] at hcomp
  cases hcomp
  exact hout

/-! ### Layouts that lose nothing -/

section Lossless

variable {webPara : WebPara} (hweb : webPara.Valid)

include hweb

/-- A block that is shown is the source of a cell. -/
theorem exists_cell_of_shown
    (h : ∀ s < webPara.cols * webPara.rows, ∃ i < webPara.cols * webPara.rows,
      webPara.source i = some s) {a' c' : ℕ} (ha' : a' < webPara.rows) (hc' : c' < webPara.cols) :
    ∃ a < webPara.rows, ∃ c < webPara.cols, webPara.cell a c = some (a', c') := by
  have hs := GridLayout.index_lt ha' hc'
  rw [Nat.mul_comm webPara.rows] at hs
  obtain ⟨i, hi, hsource⟩ := h _ hs
  refine ⟨_, WebPara.Valid.div_lt hi, _, hweb.mod_lt i, cell_eq_some_iff.mpr ⟨_, ?_,
    GridLayout.index_div hc', GridLayout.index_mod hc'⟩⟩
  rw [Nat.div_add_mod', hsource]

/-- The composed frame determines the captured one exactly when every block is shown somewhere. -/
theorem reorganizeYUV_injective_iff (hfills : webPara.Fills) (hal : webPara.ChromaAligned)
    (outF : FrameData) :
    (∀ inF inF', reorganizeYUV inF outF webPara = reorganizeYUV inF' outF webPara → inF = inF') ↔
      ∀ s < webPara.cols * webPara.rows, ∃ i < webPara.cols * webPara.rows,
        webPara.source i = some s := by
  have hbh := blkH_pos hweb
  have hbw := blkW_pos hweb
  constructor
  · -- the upper left sample of a block is the origin of a sample
    intro h s hs
    have hrow : s / webPara.cols * webPara.blkH + 0 < viH :=
      hfills.rows_mul_blkH ▸ GridLayout.index_lt (WebPara.Valid.div_lt hs) (by omega)
    have hcol : s % webPara.cols * webPara.blkW + 0 < viW :=
      hfills.cols_mul_blkW ▸ GridLayout.index_lt (hweb.mod_lt s) (by omega)
    have hne : (0 : UInt8) ≠ 1 := by decide
    have hluma : ∀ src src' : Vector UInt8 (viH * viW),
        pasteAll (pixel viW src) (pixel viW outF.y) webPara.lumaPatches =
          pasteAll (pixel viW src') (pixel viW outF.y) webPara.lumaPatches → src = src' := by
      intro src src' heq
      obtain ⟨out, hout, hy, huv⟩ := reorganizeYUV_eq_ok hweb ⟨src, outF.uv⟩ outF
      obtain ⟨out', hout', hy', huv'⟩ := reorganizeYUV_eq_ok hweb ⟨src', outF.uv⟩ outF
      have hframe : out = out' := frame_ext (by rw [hy, hy']; exact heq) (by rw [huv, huv'])
      have hsame := h ⟨src, outF.uv⟩ ⟨src', outF.uv⟩ (by rw [hout, hout', hframe])
      exact congrArg FrameData.y hsame
    obtain ⟨i, j, horigin⟩ :=
      exists_origin_of_injective hne hluma hcol (GridLayout.index_lt hrow hcol)
    obtain ⟨a, ha, c, hc, y, hy, x, hx, t, hcell, rfl, rfl, heq⟩ :=
      exists_cell_of_origin_luma hweb horigin
    rw [Prod.mk.injEq] at heq
    obtain ⟨ht1, -⟩ := GridLayout.index_inj (show 0 < webPara.blkH by omega) hy heq.1
    obtain ⟨ht2, -⟩ := GridLayout.index_inj (show 0 < webPara.blkW by omega) hx heq.2
    obtain ⟨s', hsource, hs1, hs2⟩ := cell_eq_some_iff.mp hcell
    have hi := GridLayout.index_lt ha hc
    rw [Nat.mul_comm webPara.rows] at hi
    refine ⟨_, hi, ?_⟩
    rw [hsource, ← Nat.div_add_mod' s' webPara.cols, hs1, hs2, ← ht1, ← ht2, Nat.div_add_mod']
  · intro h inF inF' heq
    obtain ⟨out, hout, hy, huv⟩ := reorganizeYUV_eq_ok hweb inF outF
    obtain ⟨out', hout', hy', huv'⟩ := reorganizeYUV_eq_ok hweb inF' outF
    rw [hout, hout'] at heq
    cases heq
    have hluma : inF.y = inF'.y := by
      apply eq_of_pixel_eq
      intro i hi j hj
      obtain ⟨a, ha, c, hc, hcell⟩ :=
        exists_cell_of_shown hweb h (hfills.div_blkH_lt hi) (hfills.div_blkW_lt hj)
      have horigin := origin_luma hweb ha hc (Nat.mod_lt i (show 0 < webPara.blkH by omega))
        (Nat.mod_lt j (show 0 < webPara.blkW by omega))
      rw [hcell, Option.map_some, Nat.div_add_mod', Nat.div_add_mod'] at horigin
      exact eq_of_pasteAll_eq horigin (congrFun (congrFun (hy.symm.trans hy') _) _)
    have hchroma : inF.uv = inF'.uv := by
      apply eq_of_pixel_eq
      intro i hi j hj
      obtain ⟨a', ha', c', hc', hcov⟩ :=
        exists_covers_chroma hweb hfills.cols_dvd hfills.rows_dvd hi hj
      obtain ⟨⟨hlo, hhi⟩, rfl⟩ := (covers_chromaBlock_iff hweb).mp (hcov a' (j / webPara.blkW))
      obtain ⟨a, ha, c, hc, hcell⟩ := exists_cell_of_shown hweb h ha' hc'
      have horigin := origin_chroma hweb hal ha hc hcell
        (show i - a' * webPara.blkH / 2 < (webPara.blkH + 1) / 2 by omega)
        (Nat.mod_lt j (show 0 < webPara.blkW by omega))
      rw [show a' * webPara.blkH / 2 + (i - a' * webPara.blkH / 2) = i by omega,
        Nat.div_add_mod'] at horigin
      exact eq_of_pasteAll_eq horigin (congrFun (congrFun (huv.symm.trans huv') _) _)
    obtain ⟨y, uv⟩ := inF
    obtain ⟨y', uv'⟩ := inF'
    obtain rfl : y = y' := hluma
    obtain rfl : uv = uv' := hchroma
    rfl

end Lossless

/-! ### The frame turned upside down -/

/-- 8 rows of 8 blocks, in the opposite order. -/
def reversedLayout : WebPara where
  dstHorizontalBlks := 8
  dstVerticalBlks := 8
  layerLayoutTab := Vector.ofFn fun i => Int32.ofNat (63 - i)

theorem reversedLayout_valid : reversedLayout.Valid := by
  refine ⟨by decide, by decide, by decide, fun i hi _ => ?_⟩
  unfold reversedLayout
  rw [Vector.getElem_ofFn, Int32.toInt_ofNat_of_lt (by dsimp only; omega)]
  right
  constructor
  · exact Int.natCast_nonneg _
  · show ((63 - i : ℕ) : ℤ) < 64
    omega

theorem source_reversedLayout : ∀ i < 64, reversedLayout.source i = some (63 - i) := by
  decide +kernel

/-- Blocks of even size tear no pair apart. -/
theorem reversedLayout_aligned : reversedLayout.ChromaAligned := by
  have hH : ¬ reversedLayout.blkH % 2 = 1 := by decide
  have hW : ¬ reversedLayout.blkW % 2 = 1 := by decide
  exact ⟨fun h => absurd h hH, fun h => absurd h hH, fun h => absurd h hW, fun h => absurd h hW,
    fun h => absurd h hW⟩

theorem reversedLayout_fills : reversedLayout.Fills := ⟨by decide, by decide⟩

theorem reorganizeYUV_reorganizeYUV_reversedLayout :
    ∃ mid out, reorganizeYUV rampFrame blankFrame reversedLayout = .ok (mid, 0) ∧
      reorganizeYUV mid rampFrame reversedLayout = .ok (out, 0) ∧
      reorganizeYUV rampFrame rampFrame (reversedLayout.comp reversedLayout) = .ok (out, 0) :=
  reorganizeYUV_reorganizeYUV reversedLayout_valid reversedLayout_valid ⟨rfl, rfl⟩
    (fun i hi => by rw [source_reversedLayout i hi]; exact Option.some_ne_none _)
    reversedLayout_aligned reversedLayout_aligned rampFrame blankFrame rampFrame

theorem reorganizeYUV_undo_reversedLayout :
    ∃ mid, reorganizeYUV rampFrame blankFrame reversedLayout = .ok (mid, 0) ∧
      reorganizeYUV mid blankFrame reversedLayout = .ok (rampFrame, 0) :=
  reorganizeYUV_undo reversedLayout_valid reversedLayout_valid ⟨rfl, rfl⟩ reversedLayout_fills
    reversedLayout_aligned reversedLayout_aligned (by decide +kernel) rampFrame blankFrame
    blankFrame

theorem reorganizeYUV_injective_reversedLayout :
    (∀ inF inF', reorganizeYUV inF blankFrame reversedLayout =
        reorganizeYUV inF' blankFrame reversedLayout → inF = inF') ↔
      ∀ s < 64, ∃ i < 64, reversedLayout.source i = some s :=
  reorganizeYUV_injective_iff reversedLayout_valid reversedLayout_fills reversedLayout_aligned
    blankFrame

end Mvr.Vif
