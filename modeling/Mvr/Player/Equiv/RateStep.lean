import Mvr.Player.RateControl
import Mvr.CInt.Basic
import Mvr.LiveRtspServer.Equiv

/-!
# One step of the rate controller

`steerInt` is the steering in `ℤ`, with the quotients of C.  For the rates whose products fit into
an `int` the code computes it (`toInt_steerFrameRate_eq_steerInt`).  It moves every positive rate
(`steerInt_lt`, `lt_steerInt`): where the quotient is the rate itself, the patch by one frame is the
step.  Rates that are not positive may go the wrong way, but the clamp lifts them to the minimum.
-/

namespace Mvr.Player

/-! ### The steering in `ℤ` -/

/-- The frame rate for a pending count, if no number is too large. -/
def steerInt (maxPendings frameRate : ℤ) : ℤ :=
  if maxPendings > 8 then
    let tRate := (frameRate * 9).tdiv 10
    if frameRate = tRate then tRate - 1 else tRate
  else if maxPendings < 2 then
    let tRate := (frameRate * 11).tdiv 10
    if frameRate = tRate then tRate + 1 else tRate
  else
    frameRate

section Steer

variable {maxPendings frameRate : ℤ}

theorem steerInt_of_gt (hmax : 8 < maxPendings) (hrate : 0 < frameRate) :
    steerInt maxPendings frameRate = frameRate * 9 / 10 := by
  unfold steerInt
  rw [if_pos hmax]
  dsimp only
  -- a positive rate loses a frame by the division alone
  rw [Int.tdiv_eq_ediv_of_nonneg (by omega), if_neg (by omega)]

theorem steerInt_lt (hmax : 8 < maxPendings) (hrate : 0 < frameRate) :
    steerInt maxPendings frameRate < frameRate := by
  rw [steerInt_of_gt hmax hrate]
  omega

theorem lt_steerInt (hmax : maxPendings < 2) (hrate : 0 ≤ frameRate) :
    frameRate < steerInt maxPendings frameRate := by
  unfold steerInt
  rw [if_neg (by omega), if_pos hmax]
  dsimp only
  rw [Int.tdiv_eq_ediv_of_nonneg (by omega)]
  split_ifs <;> omega

theorem steerInt_of_mem (hlo : 2 ≤ maxPendings) (hhi : maxPendings ≤ 8) :
    steerInt maxPendings frameRate = frameRate := by
  unfold steerInt
  rw [if_neg (by omega), if_neg (by omega)]

end Steer

/-! ### The bounds -/

/-- The rate is in its bounds. -/
structure IsFrameRate (frameRate : Int32) : Prop where
  min_le : 5 ≤ frameRate.toInt
  le_max : frameRate.toInt ≤ 15

theorem toInt_maxFrameRate : maxFrameRate.toInt = 15 := rfl

theorem toInt_minFrameRate : minFrameRate.toInt = 5 := rfl

theorem isFrameRate_minFrameRate : IsFrameRate minFrameRate := ⟨by decide, by decide⟩

theorem toInt_clampFrameRate (frameRate : Int32) :
    (clampFrameRate frameRate).toInt = max 5 (min 15 frameRate.toInt) := by
  unfold clampFrameRate
  simp only [gt_iff_lt, Int32.lt_iff_toInt_lt, toInt_maxFrameRate, toInt_minFrameRate]
  split_ifs with h1 h2
  · rw [toInt_maxFrameRate]
    omega
  · rw [toInt_minFrameRate]
    omega
  · omega

theorem isFrameRate_clampFrameRate (frameRate : Int32) :
    IsFrameRate (clampFrameRate frameRate) := by
  constructor <;> rw [toInt_clampFrameRate] <;> omega

/-! ### The steering in `int` -/

/-- The rate times 11 fits into an `int`. -/
def IsSmall (frameRate : Int32) : Prop := |frameRate.toInt| ≤ 195225786

instance : DecidablePred IsSmall := fun frameRate => by
  unfold IsSmall
  infer_instance

theorem IsFrameRate.isSmall {frameRate : Int32} (h : IsFrameRate frameRate) :
    IsSmall frameRate := by
  have hlo := h.min_le
  have hhi := h.le_max
  exact abs_le.mpr ⟨by omega, by omega⟩

/-- A factor up to 11 does not overflow. -/
theorem IsSmall.toInt_mul {frameRate c : Int32} (h : IsSmall frameRate) (hlo : 0 ≤ c.toInt)
    (hhi : c.toInt ≤ 11) : (frameRate * c).toInt = frameRate.toInt * c.toInt := by
  obtain ⟨hmin, hmax⟩ := abs_le.mp h
  refine CInt.toInt_mul_of_lt ?_ ?_
  · calc (-2 ^ 31 : ℤ) ≤ -195225786 * 11 := by norm_num
      _ ≤ -195225786 * c.toInt := by omega
      _ ≤ frameRate.toInt * c.toInt := mul_le_mul_of_nonneg_right hmin hlo
  · calc frameRate.toInt * c.toInt ≤ 195225786 * c.toInt := mul_le_mul_of_nonneg_right hmax hlo
      _ ≤ 195225786 * 11 := by omega
      _ < 2 ^ 31 := by norm_num

/-- The quotient is the exact one, and leaves room for the patch by one frame. -/
theorem IsSmall.toInt_mul_div {frameRate c : Int32} (h : IsSmall frameRate) (hlo : 0 ≤ c.toInt)
    (hhi : c.toInt ≤ 11) :
    (frameRate * c / 10).toInt = (frameRate.toInt * c.toInt).tdiv 10 ∧
      |(frameRate * c / 10).toInt| < 2 ^ 30 := by
  have hmul := h.toInt_mul hlo hhi
  have hdiv : (frameRate * c / 10).toInt = (frameRate.toInt * c.toInt).tdiv 10 := by
    rw [Int32.toInt_div_of_ne_right _ _ (by decide), hmul]
    rfl
  refine ⟨hdiv, ?_⟩
  have habs : (frameRate * c / 10).toInt.natAbs = (frameRate * c).toInt.natAbs / 10 := by
    rw [hdiv, hmul, Int.natAbs_tdiv]
    rfl
  have hle := (frameRate * c).le_toInt
  have hlt := (frameRate * c).toInt_lt
  rw [abs_lt]
  omega

/-- The patch of a quotient by one frame. -/
theorem toInt_patch {frameRate tRate tRate' : Int32} {q q' : ℤ} (hq : tRate.toInt = q)
    (hq' : tRate'.toInt = q') :
    (if frameRate = tRate then tRate' else tRate).toInt =
      if frameRate.toInt = q then q' else q := by
  rw [← hq, ← hq']
  by_cases heq : frameRate = tRate
  · rw [if_pos heq, if_pos (congrArg Int32.toInt heq)]
  · rw [if_neg heq, if_neg (mt Int32.toInt_inj.mp heq)]

/-- Without overflow, the code steers as in `ℤ`. -/
theorem toInt_steerFrameRate_eq_steerInt (maxPendings : Int32) {frameRate : Int32}
    (h : IsSmall frameRate) :
    (steerFrameRate maxPendings frameRate).toInt =
      steerInt maxPendings.toInt frameRate.toInt := by
  obtain ⟨hnine, hnine_lt⟩ := h.toInt_mul_div (c := 9) (by decide) (by decide)
  obtain ⟨heleven, heleven_lt⟩ := h.toInt_mul_div (c := 11) (by decide) (by decide)
  have hone : Int32.toInt 1 = 1 := rfl
  rw [abs_lt] at hnine_lt heleven_lt
  have hdec : (frameRate * 9 / 10 - 1).toInt = (frameRate * 9 / 10).toInt - 1 := by
    rw [Int32.toInt_sub, hone]
    exact Int.bmod_eq_of_le (by omega) (by omega)
  have hinc : (frameRate * 11 / 10 + 1).toInt = (frameRate * 11 / 10).toInt + 1 :=
    CInt.toInt_add_of_lt (by rw [hone]; omega) (by rw [hone]; omega)
  have hgt : maxPendings > 8 ↔ maxPendings.toInt > 8 := Int32.lt_iff_toInt_lt
  have hlt : maxPendings < 2 ↔ maxPendings.toInt < 2 := Int32.lt_iff_toInt_lt
  unfold steerFrameRate steerInt
  by_cases hmany : maxPendings > 8
  · rw [if_pos hmany, if_pos (hgt.mp hmany)]
    exact toInt_patch hnine (hnine ▸ hdec)
  · rw [if_neg hmany, if_neg (mt hgt.mpr hmany)]
    by_cases hfew : maxPendings < 2
    · rw [if_pos hfew, if_pos (hlt.mp hfew)]
      exact toInt_patch heleven (heleven ▸ hinc)
    · rw [if_neg hfew, if_neg (mt hlt.mpr hfew)]

/-! ### One call -/

/-- A connected client of the RTSP server pins the rate of every element but `elemVps`. -/
def Pinned (isVps : Bool) (rtspServer0 : Option LiveRtspServer) : Prop :=
  isVps = false ∧ ∃ rtsp, rtspServer0 = some rtsp ∧
    rtsp.toElement.getAttr "isConnected" false = .ok true

/-- The rate of the element. -/
def HasFrameRate (elem : Element) (frameRate : Int32) : Prop :=
  elem.getAttr "VENC-FRAMERATE" (15 : Int32) = .ok frameRate

/-- A call that the RTSP server pins sets the minimum, any other one the clamped rate. -/
theorem wsCliMaxPendingChangedHandler_cases (isVps : Bool) {rtspServer0 : Option LiveRtspServer}
    (hrtsp : ∀ rtsp ∈ rtspServer0, rtsp.ReadsConnected) {elem : Element} {frameRate : Int32}
    (hrate : HasFrameRate elem frameRate) (eventPara : UInt32) :
    ∃ frameRate', wsCliMaxPendingChangedHandler isVps rtspServer0 elem eventPara =
        .ok (elem.setAttr "VENC-FRAMERATE" frameRate') ∧
      (Pinned isVps rtspServer0 ∧ frameRate' = minFrameRate ∨
        ¬ Pinned isVps rtspServer0 ∧
          frameRate' = clampFrameRate (steerFrameRate eventPara.toInt32 frameRate)) := by
  unfold HasFrameRate at hrate
  unfold wsCliMaxPendingChangedHandler
  rw [hrate, Checked.ok_bind]
  dsimp only
  cases isVps with
  | true => exact ⟨_, rfl, Or.inr ⟨fun hpin => absurd hpin.1 (by decide), rfl⟩⟩
  | false =>
    cases rtspServer0 with
    | none =>
      refine ⟨_, rfl, Or.inr ⟨fun hpin => ?_, rfl⟩⟩
      obtain ⟨rtsp, hnone, -⟩ := hpin.2
      cases hnone
    | some rtsp =>
      obtain ⟨isConnected, hconnected⟩ := hrtsp rtsp rfl
      dsimp only
      rw [hconnected]
      cases isConnected with
      | true => exact ⟨_, rfl, Or.inl ⟨⟨rfl, rtsp, rfl, hconnected⟩, rfl⟩⟩
      | false =>
        refine ⟨_, rfl, Or.inr ⟨fun hpin => ?_, rfl⟩⟩
        obtain ⟨rtsp', hsome, hpinned⟩ := hpin.2
        obtain rfl := Option.some.inj hsome
        rw [hconnected] at hpinned
        exact absurd (Except.ok.inj hpinned) (by decide)

/-- What a call makes of a rate. -/
structure Progress (pinned : Prop) (maxPendings frameRate frameRate' : Int32) : Prop where
  isFrameRate : IsFrameRate frameRate'
  lowers : ¬ pinned → 8 < maxPendings.toInt → 5 < frameRate.toInt →
    frameRate'.toInt < frameRate.toInt
  raises : ¬ pinned → maxPendings.toInt < 2 → frameRate.toInt < 15 →
    frameRate.toInt < frameRate'.toInt
  keeps : ¬ pinned → 2 ≤ maxPendings.toInt → maxPendings.toInt ≤ 8 → IsFrameRate frameRate →
    frameRate' = frameRate
  pins : pinned → frameRate' = minFrameRate

/-- The clamped rate makes progress. -/
theorem IsSmall.progress {frameRate : Int32} (h : IsSmall frameRate) {pinned : Prop}
    (hpinned : ¬ pinned) (maxPendings : Int32) :
    Progress pinned maxPendings frameRate
      (clampFrameRate (steerFrameRate maxPendings frameRate)) := by
  have hclamp : (clampFrameRate (steerFrameRate maxPendings frameRate)).toInt =
      max 5 (min 15 (steerInt maxPendings.toInt frameRate.toInt)) := by
    rw [toInt_clampFrameRate, toInt_steerFrameRate_eq_steerInt _ h]
  refine ⟨isFrameRate_clampFrameRate _, fun _ hmax hrate => ?_, fun _ hmax hrate => ?_,
    fun _ hlo hhi hrate => ?_, fun hpin => absurd hpin hpinned⟩
  · have hlt := steerInt_lt hmax (by omega : 0 < frameRate.toInt)
    rw [hclamp]
    omega
  · rw [hclamp]
    rcases Int.lt_or_le frameRate.toInt 5 with hsmall | hlarge
    · -- below the minimum the clamp alone raises the rate
      omega
    · have hlt := lt_steerInt hmax (by omega : 0 ≤ frameRate.toInt)
      omega
  · have hmin := hrate.min_le
    have hmax := hrate.le_max
    rw [← Int32.toInt_inj, hclamp, steerInt_of_mem hlo hhi]
    omega

theorem progress_of_pinned {pinned : Prop} (hpinned : pinned) (maxPendings frameRate : Int32) :
    Progress pinned maxPendings frameRate minFrameRate :=
  ⟨isFrameRate_minFrameRate, fun h => absurd hpinned h, fun h => absurd hpinned h,
    fun h => absurd hpinned h, fun _ => rfl⟩

/-- **One call of the handler**, from any rate whose products fit. -/
theorem wsCliMaxPendingChangedHandler_progress (isVps : Bool)
    {rtspServer0 : Option LiveRtspServer} (hrtsp : ∀ rtsp ∈ rtspServer0, rtsp.ReadsConnected)
    {elem : Element} {frameRate : Int32} (hrate : HasFrameRate elem frameRate)
    (h : IsSmall frameRate) (eventPara : UInt32) :
    ∃ frameRate', wsCliMaxPendingChangedHandler isVps rtspServer0 elem eventPara =
        .ok (elem.setAttr "VENC-FRAMERATE" frameRate') ∧
      HasFrameRate (elem.setAttr "VENC-FRAMERATE" frameRate') frameRate' ∧
      Progress (Pinned isVps rtspServer0) eventPara.toInt32 frameRate frameRate' := by
  obtain ⟨frameRate', hcall, hcases⟩ :=
    wsCliMaxPendingChangedHandler_cases isVps hrtsp hrate eventPara
  refine ⟨frameRate', hcall, Element.getAttr_setAttr_self _ _ _ _, ?_⟩
  rcases hcases with ⟨hpinned, rfl⟩ | ⟨hpinned, rfl⟩
  · exact progress_of_pinned hpinned _ _
  · exact h.progress hpinned _

/-! ### Runs of calls -/

/-- A call of the handler: the pending count, and the RTSP server at that time. -/
structure PendingEvent where
  eventPara : UInt32
  rtspServer0 : Option LiveRtspServer

/-- The element after a run of calls. -/
def handlerRun (isVps : Bool) (elem : Element) (events : List PendingEvent) : Checked Element :=
  events.foldlM
    (fun elem e => wsCliMaxPendingChangedHandler isVps e.rtspServer0 elem e.eventPara) elem

/-- A run from a small rate returns, and after the first call the rate is in bounds. -/
theorem handlerRun_eq_ok (isVps : Bool) {elem : Element} {frameRate : Int32}
    (hrate : HasFrameRate elem frameRate) (h : IsSmall frameRate) (events : List PendingEvent)
    (hrtsp : ∀ e ∈ events, ∀ rtsp ∈ e.rtspServer0, rtsp.ReadsConnected) :
    ∃ elem' frameRate', handlerRun isVps elem events = .ok elem' ∧
      HasFrameRate elem' frameRate' ∧ (events ≠ [] → IsFrameRate frameRate') := by
  induction events generalizing elem frameRate with
  | nil => exact ⟨elem, frameRate, rfl, hrate, fun hne => absurd rfl hne⟩
  | cons e events ih =>
    obtain ⟨he, hrest⟩ := List.forall_mem_cons.mp hrtsp
    obtain ⟨frameRate₁, hcall, hrate₁, hprogress⟩ :=
      wsCliMaxPendingChangedHandler_progress isVps he hrate h e.eventPara
    obtain ⟨elem', frameRate', hrun, hrate', hbounds⟩ :=
      ih hrate₁ hprogress.isFrameRate.isSmall hrest
    refine ⟨elem', frameRate', ?_, hrate', fun _ => ?_⟩
    · rw [handlerRun, List.foldlM_cons, hcall]
      exact hrun
    · cases events with
      | nil =>
        -- the call was the last one
        obtain rfl := Except.ok.inj hrun
        obtain rfl := Except.ok.inj (hrate₁.symm.trans hrate')
        exact hprogress.isFrameRate
      | cons e' events' => exact hbounds (List.cons_ne_nil _ _)

/-- **The rate controller**: from every rate whose products fit into an `int` a call multiplies
without overflow and makes progress, and after any run of calls but the empty one the rate is in
bounds.  The RTSP server, if there is one, knows whether it is connected: it sets the attribute
itself (`LiveRtspServer.readsConnected_of_run`). -/
theorem handlerRun_progress (isVps : Bool) (elem : Element) (frameRate : Int32)
    (hrate : HasFrameRate elem frameRate) (h : |frameRate.toInt| ≤ 195225786) :
    (frameRate * 9).toInt = frameRate.toInt * 9 ∧ (frameRate * 11).toInt = frameRate.toInt * 11 ∧
      (∀ (eventPara : UInt32) (rtspServer0 : Option LiveRtspServer),
        (∀ rtsp ∈ rtspServer0, rtsp.ReadsConnected) →
        ∃ frameRate', wsCliMaxPendingChangedHandler isVps rtspServer0 elem eventPara =
            .ok (elem.setAttr "VENC-FRAMERATE" frameRate') ∧
          HasFrameRate (elem.setAttr "VENC-FRAMERATE" frameRate') frameRate' ∧
          Progress (Pinned isVps rtspServer0) eventPara.toInt32 frameRate frameRate') ∧
      ∀ events : List PendingEvent, events ≠ [] →
        (∀ e ∈ events, ∀ rtsp ∈ e.rtspServer0, rtsp.ReadsConnected) →
        ∃ elem' frameRate', handlerRun isVps elem events = .ok elem' ∧
          HasFrameRate elem' frameRate' ∧ IsFrameRate frameRate' := by
  have hsmall : IsSmall frameRate := h
  refine ⟨hsmall.toInt_mul (by decide) (by decide), hsmall.toInt_mul (by decide) (by decide),
    fun eventPara rtspServer0 hrtsp => ?_, fun events hne hrtsp => ?_⟩
  · exact wsCliMaxPendingChangedHandler_progress isVps hrtsp hrate hsmall eventPara
  · obtain ⟨elem', frameRate', hrun, hrate', hbounds⟩ :=
      handlerRun_eq_ok isVps hrate hsmall events hrtsp
    exact ⟨elem', frameRate', hrun, hrate', hbounds hne⟩

/-- An encoder at the full rate. -/
def fullRate : Element := (Element.new "venc").setAttr "VENC-FRAMERATE" (15 : Int32)

/-- From the full rate, nine packets and no RTSP server. -/
theorem handlerRun_progress_fullRate :
    ∃ frameRate' : Int32, wsCliMaxPendingChangedHandler false none fullRate 9 =
        .ok (fullRate.setAttr "VENC-FRAMERATE" frameRate') ∧
      frameRate'.toInt < (15 : Int32).toInt ∧
      ∃ elem' frameRate'', handlerRun false fullRate [⟨9, none⟩, ⟨0, none⟩] = .ok elem' ∧
        HasFrameRate elem' frameRate'' ∧ IsFrameRate frameRate'' := by
  have hno : ∀ rtsp ∈ (none : Option LiveRtspServer), rtsp.ReadsConnected := fun _ h => by cases h
  obtain ⟨-, -, hone, hrun⟩ := handlerRun_progress false fullRate 15 rfl (by decide)
  obtain ⟨frameRate', hcall, -, hprogress⟩ := hone 9 none hno
  refine ⟨frameRate', hcall, hprogress.lowers (fun hpin => ?_) (by decide) (by decide),
    hrun _ (by simp) fun e he => ?_⟩
  · obtain ⟨-, rtsp, hnone, -⟩ := hpin
    cases hnone
  · rcases List.mem_cons.mp he with rfl | he
    · exact hno
    · obtain rfl := List.mem_singleton.mp he
      exact hno

end Mvr.Player
