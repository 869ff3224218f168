import Mvr.Vif.Equiv.ReorganizeYuv

/-!
# The luma plane of a composed frame

The luma patches of different blocks are disjoint, so the order in which they are pasted does not
matter, and every position of a block is copied from the same position of the block's source
(`reorganizeYUV_luma`).  `reorganizeYUV_isOk` collects what `reorganizeYUV_eq_ok` says about
accesses: the composer, which checks no index, never leaves a plane.
-/

namespace Mvr.Vif

open Patch

variable {webPara : WebPara}

/-- The luma patch of a block covers exactly the block. -/
theorem covers_lumaPatch_iff (hweb : webPara.Valid) {i s row col : ℕ} :
    (webPara.lumaPatch i s).Covers row col ↔
      row / webPara.blkH = i / webPara.cols ∧ col / webPara.blkW = i % webPara.cols := by
  have hH := blkH_pos hweb
  have hW := blkW_pos hweb
  unfold Covers WebPara.lumaPatch
  rw [div_eq_iff_block (by omega), div_eq_iff_block (by omega)]

/-- Inside its block a position keeps its place. -/
theorem place_lumaPatch (i s : ℕ) {row col : ℕ} (hrow : row / webPara.blkH = i / webPara.cols)
    (hcol : col / webPara.blkW = i % webPara.cols) :
    (webPara.lumaPatch i s).place row col =
      (s / webPara.cols * webPara.blkH + row % webPara.blkH,
        s % webPara.cols * webPara.blkW + col % webPara.blkW) := by
  have hrow' := Nat.div_add_mod' row webPara.blkH
  have hcol' := Nat.div_add_mod' col webPara.blkW
  rw [hrow] at hrow'
  rw [hcol] at hcol'
  unfold place WebPara.lumaPatch
  dsimp only
  congr 1 <;> omega

/-- The origin of a luma sample. -/
theorem origin_lumaPatches (hweb : webPara.Valid) (row col : ℕ) :
    origin webPara.lumaPatches row col =
      if row < webPara.rows * webPara.blkH ∧ col < webPara.cols * webPara.blkW then
        (webPara.source (row / webPara.blkH * webPara.cols + col / webPara.blkW)).map fun s =>
          (s / webPara.cols * webPara.blkH + row % webPara.blkH,
            s % webPara.cols * webPara.blkW + col % webPara.blkW)
      else none := by
  split_ifs with hin
  · obtain ⟨hrow, hcol⟩ := hin
    have ha : row / webPara.blkH < webPara.rows := Nat.div_lt_of_lt_mul (by rwa [Nat.mul_comm])
    have hb : col / webPara.blkW < webPara.cols := Nat.div_lt_of_lt_mul (by rwa [Nat.mul_comm])
    have hi := GridLayout.index_lt ha hb
    rw [Nat.mul_comm webPara.rows] at hi
    have hdiv := GridLayout.index_div (a := row / webPara.blkH) hb
    have hmod := GridLayout.index_mod (a := row / webPara.blkH) hb
    -- a patch that covers the position is that of its block
    have honly : ∀ i s, (webPara.lumaPatch i s).Covers row col →
        i = row / webPara.blkH * webPara.cols + col / webPara.blkW := by
      intro i s hcov
      obtain ⟨h1, h2⟩ := (covers_lumaPatch_iff hweb).mp hcov
      exact (eq_index_iff hb).mpr ⟨h1.symm, h2.symm⟩
    cases hsrc : webPara.source (row / webPara.blkH * webPara.cols + col / webPara.blkW) with
    | none =>
      rw [Option.map_none, origin_eq_none_iff]
      intro p hp hcov
      obtain ⟨i, -, s, hs, rfl⟩ := mem_patches.mp hp
      rw [honly i s hcov, hsrc] at hs
      cases hs
    | some s =>
      rw [Option.map_some]
      apply origin_eq_some_of_forall
      · refine ⟨_, mem_patches.mpr ⟨_, hi, s, hsrc, rfl⟩, ?_⟩
        rw [covers_lumaPatch_iff hweb]
        exact ⟨hdiv.symm, hmod.symm⟩
      · intro p hp hcov
        obtain ⟨i, -, s', hs', rfl⟩ := mem_patches.mp hp
        rw [honly i s' hcov, hsrc] at hs'
        cases hs'
        obtain ⟨h1, h2⟩ := (covers_lumaPatch_iff hweb).mp hcov
        exact place_lumaPatch i s h1 h2
  · rw [origin_eq_none_iff]
    intro p hp hcov
    obtain ⟨i, hi, s, -, rfl⟩ := mem_patches.mp hp
    have hrow := Nat.mul_le_mul_right webPara.blkH (WebPara.Valid.div_lt hi)
    have hcol := Nat.mul_le_mul_right webPara.blkW (hweb.mod_lt i)
    rw [Nat.succ_mul] at hrow hcol
    obtain ⟨⟨-, hr⟩, ⟨-, hc⟩⟩ := hcov
    unfold WebPara.lumaPatch at hr hc
    dsimp only at hr hc
    omega

/-- Every luma sample of a block with a source is that of the source, and no other sample
changes. -/
theorem reorganizeYUV_luma (inF outF : FrameData) (hweb : webPara.Valid) :
    ∃ out, reorganizeYUV inF outF webPara = .ok (out, 0) ∧ ∀ row < viH, ∀ col < viW,
      pixel viW out.y row col =
        if row < webPara.rows * webPara.blkH ∧ col < webPara.cols * webPara.blkW then
          match webPara.source (row / webPara.blkH * webPara.cols + col / webPara.blkW) with
          | some s => pixel viW inF.y (s / webPara.cols * webPara.blkH + row % webPara.blkH)
              (s % webPara.cols * webPara.blkW + col % webPara.blkW)
          | none => pixel viW outF.y row col
        else pixel viW outF.y row col := by
  obtain ⟨out, hout, hy, -⟩ := reorganizeYUV_eq_ok hweb inF outF
  refine ⟨out, hout, fun row _ col _ => ?_⟩
  rw [hy, pasteAll_apply, origin_lumaPatches hweb]
  split_ifs
  · cases webPara.source (row / webPara.blkH * webPara.cols + col / webPara.blkW) <;> rfl
  · rfl

/-- Row 140 lies in the second row of blocks, and is shown where it was. -/
theorem reorganizeYUV_luma_identityLayout :
    ∃ out, reorganizeYUV rampFrame blankFrame identityLayout = .ok (out, 0) ∧
      pixel viW out.y 140 0 = some 140 := by
  obtain ⟨out, hout, hluma⟩ := reorganizeYUV_luma rampFrame blankFrame identityLayout_valid
  refine ⟨out, hout, ?_⟩
  have hsource : identityLayout.source
      (140 / identityLayout.blkH * identityLayout.cols + 0 / identityLayout.blkW) = some 8 := by
    decide +kernel
  rw [hluma 140 (by decide) 0 (by decide), if_pos (by decide), hsource]
  exact pixel_rampFrame_y (by decide)

/-- No access of the composer leaves a plane. -/
theorem reorganizeYUV_isOk (inF outF : FrameData) (hweb : webPara.Valid) :
    (reorganizeYUV inF outF webPara).IsOk := by
  obtain ⟨out, hout, -⟩ := reorganizeYUV_eq_ok hweb inF outF
  exact ⟨_, hout⟩

theorem reorganizeYUV_isOk_identityLayout :
    (reorganizeYUV rampFrame blankFrame identityLayout).IsOk :=
  reorganizeYUV_isOk rampFrame blankFrame identityLayout_valid

end Mvr.Vif
