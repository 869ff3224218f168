import Mvr.Hi3531dv100Lib.Basic
import Mvr.Ladder.Basic

/-!
# Start-ups that are rolled back

Both functions climb a ladder (`hi3531dv100VoStart_eq_climb`, `hi3531dv100VencStart_eq_climb`), so
the first call that fails decides whether what was started is stopped again and the failure is
reported.  The output gets it right where one of its first four calls fails: after them the labels
leave the channels running, and the last call, of HDMI, stops everything but returns `HI_SUCCESS`
(`cleanStart_voStart_iff`).  The encoder gets it wrong where its frame rate cannot be read or set
(`cleanStart_climb_vencRungs_iff`).
-/

namespace Mvr.Hi3531dv100Lib

open Ledger (Balanced)

/-! ### What is started and stopped -/

/-- What has a stop of its own. -/
inductive Resource where
  | voDev (voDev : Int32)
  | voLayer (voLayer : Int32)
  | voChn (voLayer : Int32)
  | venc (vencChn : Int32)
  deriving DecidableEq

/-- The resource that a call starts. -/
def Call.starts : Call → Option Resource
  | .voStartDev voDev => some (.voDev voDev)
  | .voStartLayer voLayer _ => some (.voLayer voLayer)
  | .voStartChn voLayer => some (.voChn voLayer)
  | .vencStart vencChn _ _ => some (.venc vencChn)
  | _ => none

/-- The resource that a call stops. -/
def Call.stops : Call → Option Resource
  | .voStopChn voLayer => some (.voChn voLayer)
  | .voStopLayer voLayer => some (.voLayer voLayer)
  | .voStopDev voDev => some (.voDev voDev)
  | .vencStop vencChn => some (.venc vencChn)
  | _ => none

/-- The starts that succeeded, and the stops. -/
def ledger (p : Platform) (calls : List Call) : List (Ledger.Event Resource) :=
  calls.flatMap fun c =>
    (if p.ret c = hiSuccess then c.starts.toList else []).map .acquire ++
      c.stops.toList.map .release

/-- Every step was made and succeeded. -/
def Succeeded (p : Platform) (steps calls : List Call) : Prop :=
  ∀ c ∈ steps, c ∈ calls ∧ p.ret c = hiSuccess

/-- The start-up reports success if it succeeded.  Otherwise it reports a failure, each thing it
started is stopped once, and nothing else is. -/
structure CleanStart (p : Platform) (steps : List Call) (result : Int32 × List Call) : Prop where
  success_iff : result.1 = hiSuccess ↔ Succeeded p steps result.2
  rolledBack : ¬ Succeeded p steps result.2 →
    result.1 ≠ hiSuccess ∧ Balanced (ledger p result.2)

/-! ### Rungs -/

/-- A step, the calls of its label, and whether its code is returned. -/
structure Rung where
  call : Call
  label : List Call
  reports : Bool

/-- The step stops nothing, and its label starts nothing. -/
structure Rung.WellFormed (r : Rung) : Prop where
  call_stops : r.call.stops = none
  label_starts : ∀ c ∈ r.label, c.starts = none

/-- The rung as a step of a ladder, with the code of its call. -/
def Rung.step (p : Platform) (r : Rung) : Ladder.Step Resource × Int32 :=
  (⟨r.call.starts, r.label.filterMap Call.stops, r.reports⟩, p.ret r.call)

/-- The code that is returned, and the calls that are made. -/
def climb (p : Platform) : List Rung → Int32 × List Call
  | [] => (hiSuccess, [])
  | r :: rest =>
    if p.ret r.call ≠ hiSuccess then
      (if r.reports then p.ret r.call else hiSuccess, r.call :: r.label)
    else ((climb p rest).1, r.call :: (climb p rest).2)

section Climb

variable (p : Platform)

theorem ledger_cons (c : Call) (calls : List Call) :
    ledger p (c :: calls) =
      (if p.ret c = hiSuccess then c.starts.toList else []).map .acquire ++
        c.stops.toList.map .release ++ ledger p calls :=
  List.flatMap_cons

/-- A label is a row of stops. -/
theorem ledger_label {label : List Call} (h : ∀ c ∈ label, c.starts = none) :
    ledger p label = (label.filterMap Call.stops).map .release := by
  induction label with
  | nil => rfl
  | cons c label ih =>
    obtain ⟨hc, hrest⟩ := List.forall_mem_cons.mp h
    rw [ledger_cons, ih hrest, hc]
    cases hstops : c.stops with
    | none =>
      rw [List.filterMap_cons_none hstops]
      split_ifs <;> rfl
    | some r =>
      rw [List.filterMap_cons_some hstops]
      split_ifs <;> rfl

/-- A climb is the run of its ladder. -/
theorem run_map_step {rungs : List Rung} (h : ∀ r ∈ rungs, r.WellFormed) :
    Ladder.run (rungs.map (Rung.step p)) = ((climb p rungs).1, ledger p (climb p rungs).2) := by
  induction rungs with
  | nil => rfl
  | cons r rest ih =>
    obtain ⟨hr, hrest⟩ := List.forall_mem_cons.mp h
    rw [List.map_cons, Rung.step, climb]
    by_cases hcode : p.ret r.call = hiSuccess
    · rw [if_neg (not_not.mpr hcode), Ladder.run_cons_of_success _ hcode, ih hrest]
      dsimp only
      rw [ledger_cons, if_pos hcode, hr.call_stops]
      simp
    · rw [if_pos hcode, Ladder.run_cons_of_failure _ hcode]
      dsimp only
      rw [ledger_cons, if_neg hcode, hr.call_stops, ledger_label p hr.label_starts]
      rfl

/-- A climb without a failure makes every call. -/
theorem climb_of_success {rungs : List Rung} (h : ∀ r ∈ rungs, p.ret r.call = hiSuccess) :
    climb p rungs = (hiSuccess, rungs.map Rung.call) := by
  induction rungs with
  | nil => rfl
  | cons r rest ih =>
    obtain ⟨hr, hrest⟩ := List.forall_mem_cons.mp h
    rw [climb, if_neg (not_not.mpr hr), ih hrest, List.map_cons]

/-- A start-up is as clean as its ladder. -/
theorem cleanStart_climb_iff {rungs : List Rung} (h : ∀ r ∈ rungs, r.WellFormed) :
    CleanStart p (rungs.map Rung.call) (climb p rungs) ↔
      Ladder.Clean [] (rungs.map (Rung.step p)) := by
  have hrun := run_map_step p h
  have hall : Succeeded p (rungs.map Rung.call) (climb p rungs).2 ↔
      ∀ s ∈ rungs.map (Rung.step p), s.2 = 0 := by
    constructor
    · intro hsucceeded s hs
      obtain ⟨r, hr, rfl⟩ := List.mem_map.mp hs
      exact (hsucceeded _ (List.mem_map_of_mem hr)).2
    · intro hzero
      have hcodes : ∀ r ∈ rungs, p.ret r.call = hiSuccess := fun r hr =>
        hzero _ (List.mem_map_of_mem hr)
      intro c hc
      obtain ⟨r, hr, rfl⟩ := List.mem_map.mp hc
      rw [climb_of_success p hcodes]
      exact ⟨List.mem_map_of_mem hr, hcodes r hr⟩
  constructor
  · intro hclean
    refine ⟨?_, fun hnot => ?_⟩
    · rw [hrun, ← hall]
      exact hclean.success_iff
    · rw [hrun]
      exact (hclean.rolledBack (mt hall.mp hnot)).2
  · intro hclean
    have hsuccess : (climb p rungs).1 = hiSuccess ↔
        Succeeded p (rungs.map Rung.call) (climb p rungs).2 := by
      rw [hall, ← hclean.success_iff, hrun]
      rfl
    refine ⟨hsuccess, fun hnot => ⟨mt hsuccess.mp hnot, ?_⟩⟩
    have hundone := hclean.undone (mt hall.mpr hnot)
    rwa [hrun] at hundone

end Climb

/-! ### The output -/

/-- The rungs of `hi3531dv100_vo_start`. -/
def voRungs (p : Platform) (handle : Int32) : List Rung :=
  let stopDev := Call.voStopDev handle
  let stopLayer := Call.voStopLayer handle
  let stopChn := Call.voStopChn handle
  [⟨.voStartDev handle, [], true⟩,
    ⟨.voGetWH, [stopDev], true⟩,
    ⟨.voStartLayer handle (stLayerAttr p), [stopDev], true⟩,
    ⟨.voStartChn handle, [stopLayer, stopDev], true⟩,
    ⟨.wbcBindVo 0 handle, [stopLayer, stopDev], true⟩,
    ⟨.voStartWbc 0 (stWbcAttr p), [stopLayer, stopDev], true⟩,
    ⟨.voHdmiStart, [stopChn, stopLayer, stopDev], false⟩]

theorem hi3531dv100VoStart_eq_climb (p : Platform) (handle : Int32) :
    hi3531dv100VoStart p handle = climb p (voRungs p handle) := by
  unfold hi3531dv100VoStart voRungs
  simp only [ne_comm (a := hiSuccess), climb]
  -- a branch for each call that may fail first, and one for none
  split_ifs <;> simp_all [end81080P3, end81080P4, end81080P5, end81080P6]

/-- The steps of `hi3531dv100_vo_start`. -/
def voSteps (p : Platform) (handle : Int32) : List Call :=
  [.voStartDev handle, .voGetWH, .voStartLayer handle (stLayerAttr p), .voStartChn handle,
    .wbcBindVo 0 handle, .voStartWbc 0 (stWbcAttr p), .voHdmiStart]

theorem wellFormed_of_mem_voRungs {p : Platform} {handle : Int32} :
    ∀ r ∈ voRungs p handle, r.WellFormed := by
  simp only [voRungs, List.forall_mem_cons, List.not_mem_nil, false_implies, implies_true,
    and_true]
  refine ⟨?_, ?_, ?_, ?_, ?_, ?_, ?_⟩ <;> exact ⟨rfl, by simp [Call.starts]⟩

/-- **The output**: its start-up is clean if one of its first four calls fails, or none of the
others. -/
theorem cleanStart_voStart_iff (p : Platform) (handle : Int32) :
    CleanStart p (voSteps p handle) (hi3531dv100VoStart p handle) ↔
      (∃ c ∈ (voSteps p handle).take 4, p.ret c ≠ hiSuccess) ∨
        ∀ c ∈ (voSteps p handle).drop 4, p.ret c = hiSuccess := by
  have hfresh : Ladder.StartsFresh [] ((voRungs p handle).map (Rung.step p)) := by
    simp [voRungs, Rung.step, Ladder.StartsFresh, Call.starts]
  have hsteps : voSteps p handle = (voRungs p handle).map Rung.call := rfl
  -- the labels of the last three calls do not undo
  have hundo : Ladder.UndoesFirst [] ((voRungs p handle).map (Rung.step p)) ↔
      (p.ret (.voStartDev handle) = 0 → p.ret .voGetWH = 0 →
        p.ret (.voStartLayer handle (stLayerAttr p)) = 0 → p.ret (.voStartChn handle) = 0 →
        p.ret (.wbcBindVo 0 handle) = 0 ∧ p.ret (.voStartWbc 0 (stWbcAttr p)) = 0 ∧
          p.ret .voHdmiStart = 0) := by
    simp [voRungs, Rung.step, Ladder.UndoesFirst, Ladder.Undoes, Call.starts, Call.stops,
      Ledger.post]
  rw [hi3531dv100VoStart_eq_climb, hsteps, cleanStart_climb_iff p wellFormed_of_mem_voRungs,
    Ladder.clean_iff_undoesFirst hfresh, hundo]
  simp only [voRungs, List.map_cons, List.map_nil, List.take_succ_cons, List.take_zero,
    List.drop_succ_cons, List.drop_zero, List.exists_mem_cons_iff, List.forall_mem_cons, hiSuccess]
  simp only [List.not_mem_nil, false_and, exists_false, or_false, false_implies, implies_true,
    and_true]
  tauto

/-! ### The encoder -/

/-- The steps of `hi3531dv100_venc_start`, for the element that owns the handle. -/
def vencSteps (handle : Int32) (venc : Element) (stFrameRate : VencFrameRate) : List Call :=
  [.vencStart handle (enPayLoad (venc.getAttrWord "VENC-PAYLOAD" "h264"))
      (enSize (venc.getAttrWord "VENC-MODE" "HD720")),
    .vencGetFrameRate handle, .vencSetFrameRate handle stFrameRate, .vencStartGetStream handle]

/-- The rungs of `hi3531dv100_venc_start`. -/
def vencRungs (handle : Int32) (venc : Element) (stFrameRate : VencFrameRate) : List Rung :=
  [⟨.vencStart handle (enPayLoad (venc.getAttrWord "VENC-PAYLOAD" "h264"))
      (enSize (venc.getAttrWord "VENC-MODE" "HD720")), [], true⟩,
    ⟨.vencGetFrameRate handle, [], true⟩,
    ⟨.vencSetFrameRate handle stFrameRate, [], true⟩,
    ⟨.vencStartGetStream handle, [.vencStop handle], true⟩]

section Encoder

variable {p : Platform} {findVencByHandle : Int32 → Checked (Option Element)} {handle : Int32}
  {venc : Element} {srcFrm dstFrm : Int32}

theorem hi3531dv100VencStart_eq_climb (hfind : findVencByHandle handle = .ok (some venc))
    (hsrc : venc.getAttr "VENC-SRC-FRAMERATE" (60 : Int32) = .ok srcFrm)
    (hdst : venc.getAttr "VENC-FRAMERATE" (15 : Int32) = .ok dstFrm) :
    hi3531dv100VencStart p findVencByHandle handle =
      .ok (climb p (vencRungs handle venc ⟨srcFrm, dstFrm⟩)) := by
  unfold hi3531dv100VencStart vencRungs
  rw [hfind, Checked.ok_bind]
  dsimp only
  rw [hsrc, Checked.ok_bind, hdst, Checked.ok_bind]
  simp only [ne_comm (a := hiSuccess), climb]
  split_ifs <;> simp_all [endVenc1080PClassic3, endVenc1080PClassic4, pure, Except.pure]

theorem wellFormed_of_mem_vencRungs {stFrameRate : VencFrameRate} :
    ∀ r ∈ vencRungs handle venc stFrameRate, r.WellFormed := by
  simp only [vencRungs, List.forall_mem_cons, List.not_mem_nil, false_implies, implies_true,
    and_true]
  refine ⟨?_, ?_, ?_, ?_⟩ <;> exact ⟨rfl, by simp [Call.starts]⟩

/-- **The encoder**: its start-up is clean if the first call fails, or the frame rate can be read
and set. -/
theorem cleanStart_climb_vencRungs_iff (p : Platform) (handle : Int32) (venc : Element)
    (stFrameRate : VencFrameRate) :
    CleanStart p (vencSteps handle venc stFrameRate)
        (climb p (vencRungs handle venc stFrameRate)) ↔
      (∃ c ∈ (vencSteps handle venc stFrameRate).take 1, p.ret c ≠ hiSuccess) ∨
        p.ret (.vencGetFrameRate handle) = hiSuccess ∧
          p.ret (.vencSetFrameRate handle stFrameRate) = hiSuccess := by
  have hfresh :
      Ladder.StartsFresh [] ((vencRungs handle venc stFrameRate).map (Rung.step p)) := by
    simp [vencRungs, Rung.step, Ladder.StartsFresh, Call.starts]
  have hsteps : vencSteps handle venc stFrameRate =
      (vencRungs handle venc stFrameRate).map Rung.call := rfl
  -- the labels of the two frame rate calls do not undo
  have hundo : Ladder.UndoesFirst [] ((vencRungs handle venc stFrameRate).map (Rung.step p)) ↔
      (p.ret (.vencStart handle (enPayLoad (venc.getAttrWord "VENC-PAYLOAD" "h264"))
          (enSize (venc.getAttrWord "VENC-MODE" "HD720"))) = 0 →
        p.ret (.vencGetFrameRate handle) = 0 ∧
          p.ret (.vencSetFrameRate handle stFrameRate) = 0) := by
    simp [vencRungs, Rung.step, Ladder.UndoesFirst, Ladder.Undoes, Call.starts, Call.stops,
      Ledger.post]
  rw [hsteps, cleanStart_climb_iff p wellFormed_of_mem_vencRungs,
    Ladder.clean_iff_undoesFirst hfresh, hundo]
  simp only [vencRungs, List.map_cons, List.take_succ_cons, List.take_zero,
    List.exists_mem_cons_iff, hiSuccess]
  simp only [List.not_mem_nil, false_and, exists_false, or_false]
  tauto

end Encoder

/-! ### Both -/

/-- **Failed start-ups**: for every combination of return codes, the start-up of the output is clean
exactly if one of its first four calls fails or none of the others, and that of an encoder exactly
if its first call fails or its frame rate can be read and set.  The encoder is one that
`findVencByHandle` finds, and whose attributes hold frame rates, as the constructor sets them. -/
theorem startUps_clean_iff (p : Platform) (handle : Int32) :
    (CleanStart p (voSteps p handle) (hi3531dv100VoStart p handle) ↔
      (∃ c ∈ (voSteps p handle).take 4, p.ret c ≠ hiSuccess) ∨
        ∀ c ∈ (voSteps p handle).drop 4, p.ret c = hiSuccess) ∧
    ∀ (findVencByHandle : Int32 → Checked (Option Element)) (venc : Element)
      (srcFrm dstFrm : Int32), findVencByHandle handle = .ok (some venc) →
      venc.getAttr "VENC-SRC-FRAMERATE" (60 : Int32) = .ok srcFrm →
      venc.getAttr "VENC-FRAMERATE" (15 : Int32) = .ok dstFrm →
      ∃ result, hi3531dv100VencStart p findVencByHandle handle = .ok result ∧
        (CleanStart p (vencSteps handle venc ⟨srcFrm, dstFrm⟩) result ↔
          (∃ c ∈ (vencSteps handle venc ⟨srcFrm, dstFrm⟩).take 1, p.ret c ≠ hiSuccess) ∨
            p.ret (.vencGetFrameRate handle) = hiSuccess ∧
              p.ret (.vencSetFrameRate handle ⟨srcFrm, dstFrm⟩) = hiSuccess) := by
  refine ⟨cleanStart_voStart_iff p handle, ?_⟩
  intro findVencByHandle venc srcFrm dstFrm hfind hsrc hdst
  exact ⟨_, hi3531dv100VencStart_eq_climb hfind hsrc hdst,
    cleanStart_climb_vencRungs_iff p handle venc _⟩

/-- A platform on which one call fails. -/
def failing (call : Call) : Platform where
  ret c := if c = call then hiFailure else hiSuccess
  wh := (3840, 2160, 60)

/-- An encoder with its attributes set. -/
def oneVenc : Element :=
  ((Element.new "venc").setAttr "VENC-SRC-FRAMERATE" (60 : Int32)).setAttr "VENC-FRAMERATE"
    (15 : Int32)

theorem startUps_clean_oneVenc :
    ∃ result, hi3531dv100VencStart (failing (.vencStartGetStream 0))
        (fun _ => .ok (some oneVenc)) 0 = .ok result ∧
      (CleanStart (failing (.vencStartGetStream 0)) (vencSteps 0 oneVenc ⟨60, 15⟩) result ↔
        (∃ c ∈ (vencSteps 0 oneVenc ⟨60, 15⟩).take 1,
          (failing (.vencStartGetStream 0)).ret c ≠ hiSuccess) ∨
        (failing (.vencStartGetStream 0)).ret (.vencGetFrameRate 0) = hiSuccess ∧
          (failing (.vencStartGetStream 0)).ret (.vencSetFrameRate 0 ⟨60, 15⟩) = hiSuccess) :=
  (startUps_clean_iff (failing (.vencStartGetStream 0)) 0).2 (fun _ => .ok (some oneVenc)) oneVenc
    60 15 rfl rfl rfl

/-- Where HDMI does not start, everything is stopped, but success is reported.  Where the frame rate
of the encoder cannot be set, the failure is reported, but the encoder goes on. -/
theorem startUps_notClean :
    (hi3531dv100VoStart (failing .voHdmiStart) 0).1 = hiSuccess ∧
      ¬ CleanStart (failing .voHdmiStart) (voSteps (failing .voHdmiStart) 0)
        (hi3531dv100VoStart (failing .voHdmiStart) 0) ∧
      ∃ result, hi3531dv100VencStart (failing (.vencSetFrameRate 0 ⟨60, 15⟩))
          (fun _ => .ok (some oneVenc)) 0 = .ok result ∧
        result.1 = hiFailure ∧ Call.vencStop 0 ∉ result.2 ∧
        ¬ CleanStart (failing (.vencSetFrameRate 0 ⟨60, 15⟩)) (vencSteps 0 oneVenc ⟨60, 15⟩)
          result := by
  refine ⟨by decide, fun hclean => ?_, _, rfl, by decide, by decide, fun hclean => ?_⟩
  · have hall := hclean.success_iff.mp (by decide)
    have hhdmi := (hall .voHdmiStart (by decide)).2
    exact absurd hhdmi (by decide)
  · have hnot := hclean.success_iff.not.mp (by decide)
    exact absurd (hclean.rolledBack hnot).2 (by decide)

end Mvr.Hi3531dv100Lib
