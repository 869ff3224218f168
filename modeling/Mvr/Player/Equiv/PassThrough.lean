import Mvr.Player.Equiv.Composer
import Mvr.Vif.Equiv.Rearrange

/-!
# The frames of channel 0

Start-up hands the frame composer the identity layout of an 8 × 8 grid, whatever the configuration
file holds, and no message reaches the element afterwards.  So the composer copies every captured
frame as it is: the layouts that the clients ask for are stored and reported, but not shown.
-/

namespace Mvr.Player

open Vif (WebPara FrameData reorganizeYUV)

section Identity

variable {web : WebPara} (hcols : web.dstHorizontalBlks = 8) (hrows : web.dstVerticalBlks = 8)
  (htab : ∀ i < 64, web.layerLayoutTab[i]? = some (Int32.ofNat i))

include hcols hrows in
theorem cells_eq : web.cols * web.rows = 64 := by
  unfold WebPara.cols WebPara.rows
  rw [hcols, hrows]
  rfl

include htab in
theorem source_self {i : ℕ} (hi : i < 64) : web.source i = some i := by
  have hint := Vif.toInt_ofNat_layer (i := i) (show i < 128 by omega)
  have hne : Int32.ofNat i ≠ -1 := ofNat_ne_neg_one ⟨i, show i < 128 by omega⟩
  unfold WebPara.source
  rw [htab i hi]
  dsimp only
  rw [if_neg hne, hint, Int.toNat_natCast]

include hcols hrows

theorem fills_eight : web.Fills := by
  constructor
  · unfold WebPara.cols
    rw [hcols]
    decide
  · unfold WebPara.rows
    rw [hrows]
    decide

include htab

theorem valid_eight : web.Valid where
  one_le_cols := by rw [hcols]; decide
  one_le_rows := by rw [hrows]; decide
  cells_le := by rw [hcols, hrows]; decide
  entry i hi hlt := by
    have h64 : i < 64 := by
      rw [hcols, hrows, show Int32.toInt 8 * Int32.toInt 8 = 64 from rfl] at hlt
      exact_mod_cast hlt
    have hint := Vif.toInt_ofNat_layer (i := i) hi
    have hentry := htab i h64
    rw [Vector.getElem?_eq_getElem hi, Option.some.injEq] at hentry
    rw [hentry, hint]
    right
    exact ⟨Int.natCast_nonneg i, hlt⟩

end Identity

/-- **The composer shows what was captured**: with the attributes that start-up sets, every frame is
composed to itself, whatever the configuration and the buffer of the encoder held. -/
theorem reorganizeYUV_of_novaEncoderInit (g : Globals) (novaCfg : NovaEncoderCfg) (start : Globals)
    (pipeline : Pipeline) (hinit : novaEncoderInit g novaCfg = .ok (start, pipeline)) :
    ∃ web, Vif.webPara pipeline.mElemHead = .ok web ∧ ∀ inFrameData outFrameData,
      reorganizeYUV inFrameData outFrameData web = .ok (inFrameData, 0) := by
  obtain ⟨g₁, -, -, rfl⟩ := novaEncoderInit_eq_ok_iff.mp hinit
  obtain ⟨web, hweb, hcols, hrows, htab⟩ := webPara_vifHead
  refine ⟨web, hweb, fun inFrameData outFrameData => ?_⟩
  apply Vif.reorganizeYUV_of_source_self (valid_eight hcols hrows htab) (fills_eight hcols hrows)
  intro i hi
  rw [cells_eq hcols hrows] at hi
  exact source_self htab hi

theorem reorganizeYUV_unfixedStart :
    ∃ start pipeline web, novaEncoderInit unfixedStart ⟨15, 2000, 30⟩ = .ok (start, pipeline) ∧
      Vif.webPara pipeline.mElemHead = .ok web ∧ ∀ inFrameData outFrameData,
        reorganizeYUV inFrameData outFrameData web = .ok (inFrameData, 0) := by
  obtain ⟨g₁, pipeline, hinit, -, -⟩ := novaEncoderInit_unfixedStart
  obtain ⟨web, hweb, hcopy⟩ :=
    reorganizeYUV_of_novaEncoderInit unfixedStart ⟨15, 2000, 30⟩ _ pipeline hinit
  exact ⟨_, pipeline, web, hinit, hweb, hcopy⟩

end Mvr.Player
