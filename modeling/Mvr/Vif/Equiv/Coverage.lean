import Mvr.Vif.Equiv.Chroma
import Mvr.Vif.Equiv.Luma

/-!
# What a composed frame keeps of the old buffer

On a grid that fills the frame the blocks tile both planes, also when their height is odd: the
halved rows of neighbouring blocks meet or overlap, and the extra chroma row closes the gap
(`exists_covers_chroma`).  So nothing of the old content is left when every cell of the layout is
shown.  An empty cell is skipped and keeps it, and `reorganizeYUV_fresh_iff` says that this is the
only way.
-/

namespace Mvr.Vif

open Patch

variable {webPara : WebPara}

/-- Every position of the chroma plane lies in the chroma rows of some row of blocks. -/
theorem exists_covers_chroma (hweb : webPara.Valid) (hcols : webPara.cols ∣ viW)
    (hrows : webPara.rows ∣ viH) {i j : ℕ} (hi : i < viH / 2) (hj : j < viW) :
    ∃ a < webPara.rows, ∃ c < webPara.cols, ∀ a' c',
      (webPara.chromaBlock a c a' c').Covers i j := by
  have hbh := blkH_pos hweb
  have hH : webPara.blkH * webPara.rows = viH := Nat.div_mul_cancel hrows
  have hW : webPara.blkW * webPara.cols = viW := Nat.div_mul_cancel hcols
  have hvH : viH = 2160 := rfl
  -- the row of blocks that holds the upper luma row of the pair
  have ha : 2 * i / webPara.blkH < webPara.rows := Nat.div_lt_of_lt_mul (by omega)
  have hc : j / webPara.blkW < webPara.cols := Nat.div_lt_of_lt_mul (by omega)
  refine ⟨_, ha, _, hc, fun a' c' => ?_⟩
  rw [covers_chromaBlock_iff hweb]
  have hlo := Nat.div_mul_le_self (2 * i) webPara.blkH
  have hhi := Nat.lt_div_mul_add (a := 2 * i) (show 0 < webPara.blkH by omega)
  rcases Nat.mod_two_eq_zero_or_one webPara.blkH with heven | hodd
  · have hmod := mul_mod_two_of_even heven (2 * i / webPara.blkH)
    omega
  · have hmod := mul_mod_two hodd (2 * i / webPara.blkH)
    omega

/-- The composed planes do not depend on the old content of the buffer exactly when no cell is
empty. -/
theorem reorganizeYUV_fresh_iff (inF : FrameData) (hweb : webPara.Valid)
    (hcols : webPara.cols ∣ viW) (hrows : webPara.rows ∣ viH) :
    (∀ outF outF', reorganizeYUV inF outF webPara = reorganizeYUV inF outF' webPara) ↔
      ∀ i < webPara.cols * webPara.rows, webPara.source i ≠ none := by
  have hbh := blkH_pos hweb
  have hbw := blkW_pos hweb
  have hH : webPara.rows * webPara.blkH = viH := Nat.mul_div_cancel' hrows
  have hW : webPara.cols * webPara.blkW = viW := Nat.mul_div_cancel' hcols
  constructor
  · -- an empty cell keeps the sample in its corner
    intro h i hi hnone
    have hrow : i / webPara.cols * webPara.blkH + 0 < viH :=
      hH ▸ GridLayout.index_lt (WebPara.Valid.div_lt hi) (by omega)
    have hcol : i % webPara.cols * webPara.blkW + 0 < viW :=
      hW ▸ GridLayout.index_lt (hweb.mod_lt i) (by omega)
    have hne : (0 : UInt8) ≠ 1 := by decide
    apply origin_ne_none_of_paste hne hcol (GridLayout.index_lt hrow hcol) inF.y
    · intro dst dst'
      obtain ⟨out, hout, hy, -⟩ := reorganizeYUV_eq_ok hweb inF ⟨dst, inF.uv⟩
      obtain ⟨out', hout', hy', -⟩ := reorganizeYUV_eq_ok hweb inF ⟨dst', inF.uv⟩
      have heq := h ⟨dst, inF.uv⟩ ⟨dst', inF.uv⟩
      rw [hout, hout'] at heq
      cases heq
      rw [← hy, ← hy']
    · rw [origin_lumaPatches hweb, if_pos ⟨by omega, by omega⟩,
        GridLayout.index_div (show 0 < webPara.blkH by omega),
        GridLayout.index_div (show 0 < webPara.blkW by omega), Nat.div_add_mod', hnone]
      rfl
  · intro hfull outF outF'
    obtain ⟨out, hout, hy, huv⟩ := reorganizeYUV_eq_ok hweb inF outF
    obtain ⟨out', hout', hy', huv'⟩ := reorganizeYUV_eq_ok hweb inF outF'
    have hluma : out.y = out'.y := by
      apply eq_of_pixel_eq
      intro i hi j hj
      have ha : i / webPara.blkH < webPara.rows :=
        Nat.div_lt_of_lt_mul (by rwa [Nat.mul_comm, hH])
      have hc : j / webPara.blkW < webPara.cols :=
        Nat.div_lt_of_lt_mul (by rwa [Nat.mul_comm, hW])
      have hindex := GridLayout.index_lt ha hc
      rw [Nat.mul_comm webPara.rows] at hindex
      obtain ⟨s, hs⟩ := Option.ne_none_iff_exists'.mp (hfull _ hindex)
      rw [hy, hy', pasteAll_apply, pasteAll_apply, origin_lumaPatches hweb,
        if_pos ⟨by omega, by omega⟩, hs]
      rfl
    have hchroma : out.uv = out'.uv := by
      apply eq_of_pixel_eq
      intro i hi j hj
      obtain ⟨a, ha, c, hc, hcov⟩ := exists_covers_chroma hweb hcols hrows hi hj
      have hindex := GridLayout.index_lt ha hc
      rw [Nat.mul_comm webPara.rows] at hindex
      obtain ⟨s, hs⟩ := Option.ne_none_iff_exists'.mp (hfull _ hindex)
      have hcell := cell_eq_some_iff.mpr ⟨s, hs, rfl, rfl⟩
      rw [huv, huv', pasteAll_apply, pasteAll_apply]
      cases horigin : origin webPara.chromaPatches i j with
      | none =>
        exact absurd (hcov _ _) (origin_eq_none_iff.mp horigin _
          ((mem_chromaPatches_iff hweb).mpr ⟨a, ha, c, hc, _, _, hcell, rfl⟩))
      | some o => rfl
    obtain ⟨y, uv⟩ := out
    obtain ⟨y', uv'⟩ := out'
    obtain rfl : y = y' := hluma
    obtain rfl : uv = uv' := hchroma
    rw [hout, hout']

/-- The layout of the fixed mode leaves nothing of the buffer. -/
theorem reorganizeYUV_fresh_identityLayout :
    reorganizeYUV rampFrame blankFrame identityLayout =
      reorganizeYUV rampFrame rampFrame identityLayout :=
  (reorganizeYUV_fresh_iff rampFrame identityLayout_valid (by decide) (by decide)).mpr
    (by decide +kernel) blankFrame rampFrame

/-- With empty cells row 135 shows whatever the buffer held. -/
theorem reorganizeYUV_stale_rowShift :
    rowShift.Valid ∧ rowShift.cols ∣ viW ∧ rowShift.rows ∣ viH ∧
      reorganizeYUV rampFrame blankFrame rowShift ≠ reorganizeYUV rampFrame rampFrame rowShift := by
  refine ⟨rowShift_valid, by decide, by decide, fun heq => ?_⟩
  obtain ⟨out, hout, hy, -⟩ := reorganizeYUV_eq_ok rowShift_valid rampFrame blankFrame
  obtain ⟨out', hout', hy', -⟩ := reorganizeYUV_eq_ok rowShift_valid rampFrame rampFrame
  rw [hout, hout'] at heq
  cases heq
  have hnone : origin rowShift.lumaPatches 135 0 = none := by decide +kernel
  have hold : pixel viW out.y 135 0 = some 0 := by
    rw [hy, pasteAll_apply, hnone]
    exact pixel_blankFrame_y (by decide)
  have hold' : pixel viW out.y 135 0 = some 135 := by
    rw [hy', pasteAll_apply, hnone]
    exact pixel_rampFrame_y (by decide)
  rw [hold] at hold'
  exact absurd hold' (by decide)

end Mvr.Vif
