import Mvr.Vif.YuvDataProcess
import Mvr.Vif.Equiv.ReorganizeYuv

/-!
# The buffers of the regroup loop

`body_cases` says once what an iteration can do: nothing, the four calls of a successful iteration
with the composition between them, or one of the two failures.  The successful iterations are
balanced.  A failed `MI_SYS_ChnOutputPortGetBuf` is followed by a put of a handle that is not held,
and after a failed `MI_SYS_ChnInputPortGetBuf` the encoder's handle is put all the same; from then
on no continuation of the run is balanced.  `yuvDataProcess_balanced_iff` is the two together.
-/

namespace Mvr.Vif

/-- The calls of an iteration that is handed both buffers. -/
def regroupCalls (o : Outcomes) : List Call :=
  [.getBuf .output o.hHandle, .getBuf .input o.hVencHandle,
    .reorganizeYUV (some o.hHandle) (some o.hVencHandle), .putBuf .input (some o.hVencHandle),
    .putBuf .output (some o.hHandle)]

theorem toUInt32_eq_zero_iff {n : Int32} : n.toUInt32 = 0 ↔ n = 0 := by
  constructor
  · intro h
    exact Int32.toBitVec.inj (congrArg UInt32.toBitVec h)
  · rintro rfl
    rfl

/-- The composition touches no buffer but those of the two handles. -/
theorem compose_eq_ok {s s' : Regroup} {o : Outcomes} (h : s.compose o = .ok s') :
    s' = s.call (.reorganizeYUV s.hHandle s.hVencHandle) := by
  unfold Regroup.compose at h
  simp only [Checked.bind_eq_ok] at h
  obtain ⟨-, -, -, -, h⟩ := h
  cases h
  rfl

/-- What an iteration does. -/
theorem body_cases {s s' : Regroup} {o : Outcomes} (h : s.Step o s') :
    (¬ o.Reached ∧ s' = s) ∨
    (o.Reached ∧ o.outputPortGetBuf ≠ 0 ∧ s' = s.call (.putBuf .output s.hHandle)) ∨
    (o.Reached ∧ o.outputPortGetBuf = 0 ∧ o.inputPortGetBuf ≠ 0 ∧
      s'.calls = s.calls ++ [.getBuf .output o.hHandle, .putBuf .input s.hVencHandle,
        .putBuf .output (some o.hHandle)]) ∨
    (o.Reached ∧ o.outputPortGetBuf = 0 ∧ o.inputPortGetBuf = 0 ∧
      s'.calls = s.calls ++ regroupCalls o) := by
  unfold Regroup.Step Regroup.body at h
  dsimp only at h
  -- `ret` is unsigned: only a timeout is recognised
  rw [if_neg UInt32.not_lt_zero] at h
  by_cases hreached : o.Reached
  · obtain ⟨hselect, hfd⟩ := hreached
    rw [if_neg fun h0 => hselect (toUInt32_eq_zero_iff.mp h0), if_pos hfd] at h
    right
    by_cases hout : o.outputPortGetBuf = 0
    · right
      rw [if_neg (not_not_intro (toUInt32_eq_zero_iff.mpr hout))] at h
      by_cases hin : o.inputPortGetBuf = 0
      · right
        rw [if_pos (toUInt32_eq_zero_iff.mpr hin)] at h
        refine ⟨⟨hselect, hfd⟩, hout, hin, ?_⟩
        rw [Checked.bind_eq_ok] at h
        obtain ⟨s₁, hcompose, h⟩ := h
        rw [compose_eq_ok hcompose] at h
        cases h
        simp [Regroup.call, regroupCalls]
      · left
        rw [if_neg fun h0 => hin (toUInt32_eq_zero_iff.mp h0)] at h
        cases h
        refine ⟨⟨hselect, hfd⟩, hout, hin, ?_⟩
        simp [Regroup.call]
    · left
      rw [if_pos fun h0 => hout (toUInt32_eq_zero_iff.mp h0)] at h
      cases h
      exact ⟨⟨hselect, hfd⟩, hout, rfl⟩
  · left
    refine ⟨hreached, ?_⟩
    by_cases hselect : o.select = 0
    · rw [if_pos (toUInt32_eq_zero_iff.mpr hselect)] at h
      cases h
      rfl
    · rw [if_neg fun h0 => hselect (toUInt32_eq_zero_iff.mp h0),
        if_neg fun hfd => hreached ⟨hselect, hfd⟩] at h
      cases h
      rfl

/-- The calls of a successful iteration are balanced. -/
theorem balanced_regroupCalls (o : Outcomes) :
    Ledger.Balanced ((regroupCalls o).flatMap Call.events) := by
  unfold Ledger.Balanced
  simp [regroupCalls, Call.events, Ledger.post]

/-- What an iteration adds to the ledger. -/
theorem events_of_step {s s' : Regroup} {o : Outcomes} (h : s.Step o s') :
    ∃ evs, s'.events = s.events ++ evs ∧ (o.GetsSucceed → Ledger.Balanced evs) ∧
      (¬ o.GetsSucceed → Ledger.replay [] evs = none) := by
  unfold Regroup.events Outcomes.GetsSucceed
  rcases body_cases h with ⟨hnot, rfl⟩ | ⟨hreached, hout, rfl⟩ | ⟨hreached, hout, hin, hcalls⟩ |
    ⟨hreached, hout, hin, hcalls⟩
  · refine ⟨[], by simp, fun _ => Ledger.balanced_nil, fun hbad => ?_⟩
    exact absurd (fun hreached => absurd hreached hnot) hbad
  · -- the handle that is put is not held
    refine ⟨[.release (.output, s.hHandle)], ?_, fun hgood => absurd (hgood hreached).1 hout,
      fun _ => ?_⟩
    · simp [Regroup.call, Call.events]
    · simp [Ledger.post]
  · -- the frame is held, but no buffer of the encoder
    refine ⟨_, by rw [hcalls, List.flatMap_append], fun hgood => absurd (hgood hreached).2 hin,
      fun _ => ?_⟩
    simp [Call.events, Ledger.post]
  · refine ⟨_, by rw [hcalls, List.flatMap_append], fun _ => balanced_regroupCalls o,
      fun hbad => absurd (fun _ => ⟨hout, hin⟩) hbad⟩

/-- After a run every buffer was put back exactly once, and none was put that was not held, exactly
when every buffer the loop asked for was handed out. -/
theorem yuvDataProcess_balanced_iff {tr : List Outcomes} {s : Regroup}
    (h : Run Regroup.Step Regroup.init tr s) :
    Ledger.Balanced s.events ↔ ∀ o ∈ tr, o.GetsSucceed :=
  Ledger.balanced_iff_of_run Regroup.events Outcomes.GetsSucceed rfl
    (fun _ _ _ hs => events_of_step hs) h

/-! ### Runs -/

/-- An element with a grid of 16 rows of 8 blocks that all show the first block. -/
def gridElement : Element :=
  ((Element.new "vif").setAttr "dst_horizontal_blks" "8").setAttr "dst_vertical_blks" "16"

/-- An iteration over that element. -/
def gridOutcomes (select outputPortGetBuf inputPortGetBuf : Int32) : Outcomes where
  select := select
  fdIsSet := true
  outputPortGetBuf := outputPortGetBuf
  hHandle := 7
  stBufInfo := rampFrame
  inputPortGetBuf := inputPortGetBuf
  hVencHandle := 8
  stVencBufInfo := blankFrame
  vifElement := gridElement

theorem gridElement_webPara_valid : ∃ web, webPara gridElement = .ok web ∧ web.Valid := by
  refine ⟨{ dstHorizontalBlks := 8, dstVerticalBlks := 16,
            layerLayoutTab := Vector.replicate maxLayerNums 0 }, rfl,
    by decide, by decide, by decide, fun i hi _ => ?_⟩
  rw [Vector.getElem_replicate]
  right
  decide

/-- A timeout and a composed frame. -/
theorem yuvDataProcess_balanced_grid : ∃ s,
    Run Regroup.Step Regroup.init [gridOutcomes 0 0 0, gridOutcomes 1 0 0] s ∧
      s.calls = regroupCalls (gridOutcomes 1 0 0) ∧ Ledger.Balanced s.events := by
  obtain ⟨web, hweb, hvalid⟩ := gridElement_webPara_valid
  obtain ⟨out, hout, -⟩ := reorganizeYUV_eq_ok hvalid rampFrame blankFrame
  have hwait : Regroup.init.Step (gridOutcomes 0 0 0) Regroup.init := rfl
  have hframe : Regroup.init.Step (gridOutcomes 1 0 0)
      { hHandle := some 7, hVencHandle := some 8, calls := regroupCalls (gridOutcomes 1 0 0) } := by
    show (((Regroup.call _ _).compose (gridOutcomes 1 0 0)) >>= _) = _
    unfold Regroup.compose
    rw [show webPara (gridOutcomes 1 0 0).vifElement = .ok web from hweb, Checked.ok_bind,
      show reorganizeYUV (gridOutcomes 1 0 0).stBufInfo (gridOutcomes 1 0 0).stVencBufInfo web =
        .ok (out, 0) from hout]
    rfl
  have hrun := Run.cons hwait (Run.cons hframe Run.nil)
  refine ⟨_, hrun, rfl, (yuvDataProcess_balanced_iff hrun).mpr fun o ho _ => ?_⟩
  rcases List.mem_pair.mp ho with rfl | rfl <;> exact ⟨rfl, rfl⟩

/-- The first frame is not handed out, and the handle that is put was never written. -/
theorem yuvDataProcess_failedGet : ∃ s,
    Run Regroup.Step Regroup.init [gridOutcomes 1 (-1) 0] s ∧
      s.calls = [.putBuf .output none] ∧ ¬ Ledger.Balanced s.events := by
  have hstep : Regroup.init.Step (gridOutcomes 1 (-1) 0)
      { hHandle := none, hVencHandle := none, calls := [.putBuf .output none] } := rfl
  exact ⟨_, Run.cons hstep Run.nil, rfl, by decide⟩

end Mvr.Vif
