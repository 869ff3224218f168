import Mvr.Player.Equiv.RateStep
import Mvr.Player.NovaEncoderInit
import Mvr.WebSocketServerImplcFwk.Equiv

/-!
# Sustained congestion

`stepsToMin` bounds how many calls of the handler under congestion it takes to reach
`MIN_FRAME_RATE`: at most seven from any rate in bounds, and every call lowers it
(`stepsToMin_lowered`).  The handler is only called when the maximum changes, so a run of reports
that stay above 8 ends at the minimum when at least seven of them change it
(`frameRate_of_congestion`); ten equal reports are one call and leave the rate at 13
(`frameRate_of_constant_congestion`).
-/

namespace Mvr.Player

open WebSocketServerImplcFwk (Session Linked SameLinks)

/-! ### Steps to the minimum -/

/-- How many calls under congestion lower the rate to the minimum, at most. -/
def stepsToMin (frameRate : Int32) : ℕ :=
  if frameRate.toInt ≤ 10 then (frameRate.toInt - 5).toNat
  else (5 + (frameRate.toInt - 10) / 2).toNat

/-- Under congestion a rate in bounds loses a tenth, rounded up. -/
theorem toInt_steerFrameRate {maxPendings frameRate : Int32} (hmax : 8 < maxPendings.toInt)
    (h : IsFrameRate frameRate) :
    (steerFrameRate maxPendings frameRate).toInt = frameRate.toInt * 9 / 10 := by
  have hlo := h.min_le
  rw [toInt_steerFrameRate_eq_steerInt _ h.isSmall, steerInt_of_gt hmax (by omega)]

theorem stepsToMin_le (frameRate : Int32) (h : IsFrameRate frameRate) :
    stepsToMin frameRate ≤ 7 := by
  have hlo := h.min_le
  have hhi := h.le_max
  unfold stepsToMin
  split_ifs <;> omega

theorem eq_minFrameRate_of_stepsToMin {frameRate : Int32} (h : IsFrameRate frameRate)
    (h0 : stepsToMin frameRate = 0) : frameRate = minFrameRate := by
  have hlo := h.min_le
  have hhi := h.le_max
  rw [← Int32.toInt_inj, toInt_minFrameRate]
  unfold stepsToMin at h0
  split_ifs at h0 <;> omega

/-- A call under congestion comes closer to the minimum. -/
theorem stepsToMin_lowered {maxPendings frameRate : Int32} (hmax : 8 < maxPendings.toInt)
    (h : IsFrameRate frameRate) :
    stepsToMin (clampFrameRate (steerFrameRate maxPendings frameRate)) ≤
      stepsToMin frameRate - 1 := by
  have hlo := h.min_le
  have hhi := h.le_max
  have hlowered : (clampFrameRate (steerFrameRate maxPendings frameRate)).toInt =
      max 5 (min 15 (frameRate.toInt * 9 / 10)) := by
    rw [toInt_clampFrameRate, toInt_steerFrameRate hmax h]
  unfold stepsToMin
  rw [hlowered]
  split_ifs <;> omega

/-- The count is one the handler sees as congestion. -/
def IsCongested (max : UInt32) : Prop := 8 < max.toNat ∧ max.toNat < 2 ^ 31

instance : DecidablePred IsCongested := fun max => by
  unfold IsCongested
  infer_instance

/-- **One call of the handler**: the new rate is in bounds, and under congestion closer to the
minimum. -/
theorem wsCliMaxPendingChangedHandler_eq_ok (isVps : Bool) {rtspServer0 : Option LiveRtspServer}
    {elem : Element} {frameRate : Int32} (eventPara : UInt32)
    (hrate : HasFrameRate elem frameRate) (h : IsFrameRate frameRate)
    (hrtsp : ∀ rtsp ∈ rtspServer0, rtsp.ReadsConnected) :
    ∃ frameRate', wsCliMaxPendingChangedHandler isVps rtspServer0 elem eventPara =
        .ok (elem.setAttr "VENC-FRAMERATE" frameRate') ∧
      IsFrameRate frameRate' ∧
      (IsCongested eventPara → stepsToMin frameRate' ≤ stepsToMin frameRate - 1) := by
  obtain ⟨frameRate', hcall, hcases⟩ :=
    wsCliMaxPendingChangedHandler_cases isVps hrtsp hrate eventPara
  refine ⟨frameRate', hcall, ?_⟩
  rcases hcases with ⟨-, rfl⟩ | ⟨-, rfl⟩
  · have hmin : stepsToMin minFrameRate = 0 := by decide
    exact ⟨isFrameRate_minFrameRate, fun _ => by omega⟩
  · refine ⟨isFrameRate_clampFrameRate _, ?_⟩
    rintro ⟨hgt, hlt⟩
    refine stepsToMin_lowered ?_ h
    rw [CInt.toInt_toInt32_of_lt hlt]
    omega

/-! ### Runs of reports -/

/-- The RTSP server that the set-up creates always knows whether it is connected. -/
theorem readsConnected_rtspServer0 {tr : List LiveRtspServer.Event} {rtsp : LiveRtspServer}
    (h : Run LiveRtspServer.Step rtspServerAttrs tr rtsp) : rtsp.ReadsConnected := by
  refine LiveRtspServer.readsConnected_of_run ?_ h
  exact ⟨false, by decide⟩

/-- A report of an open connection, while the RTSP server is in some state of its own. -/
structure Report.IsFrom (r : Report) (connections : List CfWebsocket) : Prop where
  mem : r.cli ∈ connections
  isPending : r.IsPending
  rtspServer0 : ∀ rtsp ∈ r.rtspServer0, ∃ tr, Run LiveRtspServer.Step rtspServerAttrs tr rtsp

section Reports

variable (isVps : Bool) {s : Session} {elem : Element} {frameRate : Int32}

/-- **One report**: the handler is called exactly when the maximum changes or is 0. -/
theorem reportStep_eq_ok (h : Linked s) (hcallback : s.server.onMaxPendingChanged = true)
    (hrate : HasFrameRate elem frameRate) (hbounds : IsFrameRate frameRate) {r : Report}
    (hr : r.IsFrom s.connections) :
    ∃ server elem' max frameRate', reportStep isVps s.server elem r = .ok (server, elem') ∧
      SameLinks s.server server ∧ server.maxPending = .ok max ∧ server.mMaxPending = max ∧
      HasFrameRate elem' frameRate' ∧ IsFrameRate frameRate' ∧
      (IsCongested max → stepsToMin frameRate' ≤
        stepsToMin frameRate - if max = s.server.mMaxPending then 0 else 1) := by
  obtain ⟨n, hn⟩ := hr.isPending
  obtain ⟨server, max, hread, hlinks, hmax, -, hrecorded⟩ :=
    h.onCliRead_eq_ok hcallback hr.mem hn
  have hrtsp : ∀ rtsp ∈ r.rtspServer0, rtsp.ReadsConnected := fun rtsp hrtsp => by
    obtain ⟨tr, hrun⟩ := hr.rtspServer0 rtsp hrtsp
    exact readsConnected_rtspServer0 hrun
  unfold reportStep
  rw [hread, Checked.ok_bind]
  by_cases hchanged : max ≠ s.server.mMaxPending ∨ max = 0
  · -- the maximum changed, or is 0: the handler is called
    obtain ⟨frameRate', hcall, hbounds', hlowered⟩ :=
      wsCliMaxPendingChangedHandler_eq_ok isVps max hrate hbounds hrtsp
    dsimp only
    rw [if_pos hchanged]
    dsimp only
    rw [hcall]
    refine ⟨server, _, max, frameRate', rfl, hlinks, hmax, hrecorded,
      Element.getAttr_setAttr_self _ _ _ _, hbounds', fun hc => ?_⟩
    have hle := hlowered hc
    split_ifs <;> omega
  · -- the maximum is the recorded one: nothing happens
    dsimp only
    rw [if_neg hchanged]
    refine ⟨server, elem, max, frameRate, rfl, hlinks, hmax, hrecorded, hrate, hbounds, fun _ => ?_⟩
    have heq : max = s.server.mMaxPending := by
      by_contra hne
      exact hchanged (Or.inl hne)
    rw [if_pos heq]
    omega

/-- A run of reports returns; under congestion every change of the maximum is a step towards the
minimum. -/
theorem reportRun_eq_ok (h : Linked s) (hcallback : s.server.onMaxPendingChanged = true)
    (hrate : HasFrameRate elem frameRate) (hbounds : IsFrameRate frameRate)
    {reports : List Report} (hreports : ∀ r ∈ reports, r.IsFrom s.connections) :
    ∃ server elem' maxima frameRate',
      reportRun isVps s.server elem reports = .ok ((server, elem'), maxima) ∧
      HasFrameRate elem' frameRate' ∧ IsFrameRate frameRate' ∧
      ((∀ max ∈ maxima, IsCongested max) →
        stepsToMin frameRate' ≤ stepsToMin frameRate - changes s.server.mMaxPending maxima) := by
  induction reports generalizing s elem frameRate with
  | nil => exact ⟨s.server, elem, [], frameRate, rfl, hrate, hbounds, fun _ => le_rfl⟩
  | cons r reports ih =>
    obtain ⟨hr, hrest⟩ := List.forall_mem_cons.mp hreports
    obtain ⟨server, elem₁, max, frameRate₁, hstep, hlinks, hmax, hrecorded, hrate₁, hbounds₁,
      hlowered⟩ := reportStep_eq_ok isVps h hcallback hrate hbounds hr
    obtain ⟨server', elem', maxima, frameRate', hrun, hrate', hbounds', hlowered'⟩ :=
      ih (h.congr hlinks) (hlinks.onMaxPendingChanged_eq.trans hcallback) hrate₁ hbounds₁ hrest
    refine ⟨server', elem', max :: maxima, frameRate', ?_, hrate', hbounds', fun hc => ?_⟩
    · rw [reportRun, hstep, Checked.ok_bind]
      dsimp only at hrun ⊢
      rw [hmax, Checked.ok_bind, hrun]
      rfl
    · obtain ⟨hc₁, hcrest⟩ := List.forall_mem_cons.mp hc
      have hle := hlowered hc₁
      have hle' := hlowered' hcrest
      rw [hrecorded] at hle'
      rw [changes]
      omega

end Reports

/-- **Sustained congestion**: a run of reports that leave the maximum above 8, and below the sign
bit, ends at the minimum rate when at least seven of them change the maximum. -/
theorem frameRate_of_congestion (residue : UInt32) (tr : List WebSocketServerImplcFwk.Event)
    (s : Session) (h : Run WebSocketServerImplcFwk.Step (.new residue) tr s)
    (hcallback : s.server.onMaxPendingChanged = true) (isVps : Bool) (elem : Element)
    (frameRate : Int32) (hrate : HasFrameRate elem frameRate) (hbounds : IsFrameRate frameRate)
    (reports : List Report) (hreports : ∀ r ∈ reports, r.IsFrom s.connections) :
    ∃ server elem' maxima,
      reportRun isVps s.server elem reports = .ok ((server, elem'), maxima) ∧
      ((∀ max ∈ maxima, IsCongested max) → 7 ≤ changes s.server.mMaxPending maxima →
        HasFrameRate elem' minFrameRate) := by
  obtain ⟨server, elem', maxima, frameRate', hrun, hrate', hbounds', hlowered⟩ :=
    reportRun_eq_ok isVps (WebSocketServerImplcFwk.linked_of_run h) hcallback hrate hbounds hreports
  refine ⟨server, elem', maxima, hrun, fun hc hchanges => ?_⟩
  have hle := hlowered hc
  have hstart := stepsToMin_le frameRate hbounds
  rwa [eq_minFrameRate_of_stepsToMin hbounds' (by omega)] at hrate'

/-! ### One client -/

/-- A server with one client, whose callback is registered. -/
def oneClient : Session :=
  ⟨((WebSocketServerImplcFwk.new 0).onNewWebsocket 1 101 0).setMaxPendingChangedCallback, [1]⟩

/-- The client reports a number of packets, and there is no RTSP server. -/
def packetsLeft (n : Int32) : Report := ⟨1, .object [("pendingH264pkg", .int n)], none⟩

theorem run_oneClient :
    Run WebSocketServerImplcFwk.Step (.new 0) [.connect 1, .setCallback] oneClient := by
  have hconnect : WebSocketServerImplcFwk.Step (.new 0) (.connect 1)
      ⟨(WebSocketServerImplcFwk.new 0).onNewWebsocket 1 101 0, [1]⟩ := .connect 0 (by decide) rfl
  exact (Run.nil.snoc hconnect).snoc .setCallback

theorem isFrom_packetsLeft (n : Int32) : (packetsLeft n).IsFrom oneClient.connections := by
  refine ⟨List.mem_singleton.mpr rfl, ⟨n, CfJson.getInt_cons_of_eq _ _ rfl⟩, fun rtsp hrtsp => ?_⟩
  cases hrtsp

/-- Seven changes from the full rate. -/
theorem frameRate_of_congestion_seven :
    ∃ server elem', reportRun false oneClient.server fullRate
        ([9, 10, 9, 10, 9, 10, 9].map packetsLeft) =
          .ok ((server, elem'), [9, 10, 9, 10, 9, 10, 9]) ∧
      HasFrameRate elem' minFrameRate := by
  obtain ⟨server, elem', maxima, hrun, hfinal⟩ := frameRate_of_congestion 0 _ oneClient
    run_oneClient rfl false fullRate 15 rfl ⟨by decide, by decide⟩
    ([9, 10, 9, 10, 9, 10, 9].map packetsLeft) fun r hr => by
      obtain ⟨n, -, rfl⟩ := List.mem_map.mp hr
      exact isFrom_packetsLeft n
  have hmaxima : maxima = [9, 10, 9, 10, 9, 10, 9] :=
    (congrArg Prod.snd (Except.ok.inj hrun)).symm
  subst hmaxima
  have hcongested : ∀ max ∈ ([9, 10, 9, 10, 9, 10, 9] : List UInt32), IsCongested max := by
    simp [IsCongested]
  exact ⟨server, elem', hrun, hfinal hcongested (by decide)⟩

/-- Ten reports of nine packets are one change, and leave the full rate at 13; ten changing reports
of a negative number, which the server takes for a huge one, leave it at 15. -/
theorem frameRate_of_constant_congestion :
    Run WebSocketServerImplcFwk.Step (.new 0) [.connect 1, .setCallback] oneClient ∧
      oneClient.server.onMaxPendingChanged = true ∧ HasFrameRate fullRate 15 ∧
      (∀ n : Int32, (packetsLeft n).IsFrom oneClient.connections) ∧
      (∃ server elem', reportRun false oneClient.server fullRate
          ((List.replicate 10 9).map packetsLeft) = .ok ((server, elem'), List.replicate 10 9) ∧
        HasFrameRate elem' 13 ∧ ¬ HasFrameRate elem' minFrameRate) ∧
      ∃ server elem', reportRun false oneClient.server fullRate
          ([-1, -2, -1, -2, -1, -2, -1, -2, -1, -2].map packetsLeft) =
            .ok ((server, elem'), [-1, -2, -1, -2, -1, -2, -1, -2, -1, -2]) ∧
        HasFrameRate elem' 15 ∧ ¬ HasFrameRate elem' minFrameRate := by
  refine ⟨run_oneClient, rfl, rfl, isFrom_packetsLeft, ⟨_, _, rfl, rfl, fun h => ?_⟩,
    _, _, rfl, rfl, fun h => ?_⟩
  · exact absurd (Except.ok.inj h) (show (13 : Int32) ≠ 5 by decide)
  · exact absurd (Except.ok.inj h) (show (15 : Int32) ≠ 5 by decide)

end Mvr.Player
