import Mvr.LiveRtspServer.Basic
import Mvr.Element.Equiv
import Mvr.Lts.Basic
import Mathlib.Data.List.TakeWhile

/-!
# The frames of the RTSP queue

`Ledger tr s` accounts for every frame of a run with the trace `tr` that ended in `s`: the accepted
frames are the popped ones and then the queued ones, and the popped ones are the discarded, the
handed over and the one in hand, in this order.  `ledger_of_run` proves it of every run, through the
invariant `Ledger.Started` on how far `startSelf` has come.
-/

namespace Mvr.LiveRtspServer

/-! ### The history of a run -/

/-- The frames that were queued, in push order. -/
def accepted (tr : List Event) : List H264Buff :=
  tr.filterMap fun
    | .push data true => some (H264Buff.new data)
    | _ => none

/-- The frames that were popped. -/
def popped (tr : List Event) : List H264Buff :=
  tr.filterMap fun
    | .pop frame => some frame
    | _ => none

/-- The frames that were handed to `mRtspServer->pushData`, as it got them. -/
def handedOver (tr : List Event) : List H264Buff :=
  tr.filterMap fun
    | .handOver buff len => some ⟨buff, len⟩
    | _ => none

/-- The frames that were deleted without being handed over. -/
def discarded (tr : List Event) : List H264Buff :=
  tr.filterMap fun
    | .discard frame => some frame
    | _ => none

/-- The event is not a `startSelf`. -/
def Event.notStart : Event → Bool
  | .startSelf => false
  | _ => true

/-- The frames that were popped before `mRtspServer` was set. -/
def poppedBeforeStart (tr : List Event) : List H264Buff := popped (tr.takeWhile Event.notStart)

section Append

variable (tr : List Event) (e : Event)

theorem accepted_append : accepted (tr ++ [e]) = accepted tr ++ accepted [e] :=
  List.filterMap_append

theorem popped_append : popped (tr ++ [e]) = popped tr ++ popped [e] := List.filterMap_append

theorem handedOver_append : handedOver (tr ++ [e]) = handedOver tr ++ handedOver [e] :=
  List.filterMap_append

theorem discarded_append : discarded (tr ++ [e]) = discarded tr ++ discarded [e] :=
  List.filterMap_append

/-- Before `startSelf` every popped frame was popped before it. -/
theorem poppedBeforeStart_of_forall {tr : List Event} (h : ∀ e ∈ tr, e.notStart = true) :
    poppedBeforeStart tr = popped tr := by
  unfold poppedBeforeStart
  rw [List.takeWhile_eq_self_iff.mpr h]

theorem poppedBeforeStart_mono : poppedBeforeStart tr <+: poppedBeforeStart (tr ++ [e]) := by
  apply List.IsPrefix.filterMap
  induction tr with
  | nil => exact List.nil_prefix
  | cons e' tr ih =>
    rw [List.cons_append, List.takeWhile_cons, List.takeWhile_cons]
    split_ifs
    · exact List.cons_prefix_cons.mpr ⟨rfl, ih⟩
    · exact List.prefix_rfl

end Append

/-! ### The steps -/

/-- A push is accepted exactly when fewer than ten frames are queued. -/
theorem pushData_cases (s : LiveRtspServer) (data : Buffer) :
    (s.mPushBuffList.length < 10 ∧ (s.pushData data).2 = true ∧
        (s.pushData data).1.mPushBuffList = s.mPushBuffList ++ [H264Buff.new data]) ∨
      (10 ≤ s.mPushBuffList.length ∧ (s.pushData data).2 = false ∧
        (s.pushData data).1.mPushBuffList = s.mPushBuffList) := by
  unfold pushData
  split_ifs with h
  · exact Or.inl ⟨h, rfl, rfl⟩
  · exact Or.inr ⟨by omega, rfl, rfl⟩

/-- A push does not concern the push thread's frame or the server. -/
theorem pushData_frame (s : LiveRtspServer) (data : Buffer) :
    (s.pushData data).1.inHand = s.inHand ∧ (s.pushData data).1.mRtspServer = s.mRtspServer := by
  unfold pushData
  split_ifs <;> exact ⟨rfl, rfl⟩

/-- `startSelf` sets the server and nothing else the queue depends on. -/
theorem startSelf_eq_ok {s s' : LiveRtspServer} (h : s.startSelf = .ok s') :
    s'.mRtspServer ≠ none ∧ s'.mPushBuffList = s.mPushBuffList ∧ s'.inHand = s.inHand := by
  unfold startSelf at h
  simp only [Checked.bind_eq_ok] at h
  obtain ⟨port, -, hpure⟩ := h
  obtain rfl := Except.ok.inj hpure
  exact ⟨by simp, rfl, rfl⟩

/-- What a step of the push thread does. -/
theorem pushThreadStep_cases (s : LiveRtspServer) :
    (s.inHand = none ∧ s.mPushBuffList = [] ∧ s.pushThreadStep = (s, .sleep)) ∨
      (∃ frame rest, s.inHand = none ∧ s.mPushBuffList = frame :: rest ∧
        s.pushThreadStep = ({ s with mPushBuffList := rest, inHand := some frame }, .pop frame)) ∨
      (∃ frame, s.inHand = some frame ∧ s.mRtspServer ≠ none ∧
        s.pushThreadStep = ({ s with inHand := none }, .handOver frame.buff frame.len)) ∨
      (∃ frame, s.inHand = some frame ∧ s.mRtspServer = none ∧
        s.pushThreadStep = ({ s with inHand := none }, .discard frame)) := by
  unfold pushThreadStep
  cases hhand : s.inHand with
  | none =>
    cases hqueue : s.mPushBuffList with
    | nil => exact Or.inl ⟨rfl, rfl, rfl⟩
    | cons frame rest => exact Or.inr (Or.inl ⟨frame, rest, rfl, rfl, rfl⟩)
  | some frame =>
    cases hserver : s.mRtspServer with
    | none => exact Or.inr (Or.inr (Or.inr ⟨frame, rfl, rfl, rfl⟩))
    | some server => exact Or.inr (Or.inr (Or.inl ⟨frame, rfl, by simp, rfl⟩))

/-! ### The attribute `isConnected` -/

/-- The attribute reads as a boolean. -/
def ReadsConnected (s : LiveRtspServer) : Prop :=
  (s.toElement.getAttr "isConnected" false).IsOk

/-- Every step leaves a boolean in the attribute. -/
theorem readsConnected_of_step {s s' : LiveRtspServer} {e : Event} (h : s.ReadsConnected)
    (hs : Step s e s') : s'.ReadsConnected := by
  cases hs with
  | push data =>
    unfold pushData ReadsConnected
    split_ifs
    · exact ⟨true, Element.getAttr_setAttr_self _ _ _ _⟩
    · exact ⟨false, Element.getAttr_setAttr_self _ _ _ _⟩
  | pushThread =>
    rcases pushThreadStep_cases s with ⟨-, -, hstep⟩ | ⟨frame, rest, -, -, hstep⟩ |
      ⟨frame, -, -, hstep⟩ | ⟨frame, -, -, hstep⟩ <;>
    · rw [hstep]
      exact h
  | startSelf hok =>
    unfold LiveRtspServer.startSelf at hok
    obtain ⟨port, -, hpure⟩ := Checked.bind_eq_ok.mp hok
    obtain rfl := Except.ok.inj hpure
    exact h

theorem readsConnected_of_run {s₀ s : LiveRtspServer} {tr : List Event} (h₀ : s₀.ReadsConnected)
    (h : Run Step s₀ tr s) : s.ReadsConnected :=
  h.stateInvariant ReadsConnected h₀ fun _ _ _ hI hs => readsConnected_of_step hI hs

/-! ### The ledger -/

/-- Every frame of a run is accounted for. -/
structure Ledger (tr : List Event) (s : LiveRtspServer) : Prop where
  /-- The queue is bounded. -/
  length_le : s.mPushBuffList.length ≤ 10
  /-- Nothing is lost, duplicated or reordered in the queue. -/
  accepted_eq : accepted tr = popped tr ++ s.mPushBuffList
  /-- A popped frame is dealt with before the next one. -/
  popped_eq : popped tr = discarded tr ++ handedOver tr ++ s.inHand.toList
  /-- Only frames that were popped before there was a server are discarded. -/
  discarded_prefix : discarded tr <+: poppedBeforeStart tr

/-- How far `startSelf` has come: without a server nothing was handed over. -/
structure Ledger.Started (tr : List Event) (s : LiveRtspServer) : Prop where
  ledger : Ledger tr s
  notStart : s.mRtspServer = none → ∀ e ∈ tr, e.notStart = true
  handedOver_eq : s.mRtspServer = none → handedOver tr = []

namespace Ledger.Started

variable {tr : List Event} {s : LiveRtspServer}

/-- A step that is not a `startSelf` keeps the history free of it. -/
theorem notStart_append (h : Started tr s) {e : Event} (he : e.notStart = true)
    (hnone : s.mRtspServer = none) : ∀ e' ∈ tr ++ [e], e'.notStart = true := by
  intro e' he'
  rcases List.mem_append.mp he' with hmem | hmem
  · exact h.notStart hnone e' hmem
  · obtain rfl := List.mem_singleton.mp hmem
    exact he

theorem discarded_prefix_append (h : Started tr s) (e : Event) :
    discarded tr <+: poppedBeforeStart (tr ++ [e]) :=
  h.ledger.discarded_prefix.trans (poppedBeforeStart_mono tr e)

/-- The ledger after a step that discards nothing: what it queues and takes off the queue, and what
it takes into the hand and hands over, decide. -/
theorem append (h : Started tr s) {e : Event} {s' : LiveRtspServer} (he : e.notStart = true)
    (hserver : s'.mRtspServer = s.mRtspServer) (hlen : s'.mPushBuffList.length ≤ 10)
    (hqueue : s.mPushBuffList ++ accepted [e] = popped [e] ++ s'.mPushBuffList)
    (hhand : s.inHand.toList ++ popped [e] = handedOver [e] ++ s'.inHand.toList)
    (hdiscarded : discarded [e] = []) (hhanded : s.mRtspServer = none → handedOver [e] = []) :
    Started (tr ++ [e]) s' := by
  refine ⟨⟨hlen, ?_, ?_, ?_⟩, ?_, ?_⟩
  · rw [accepted_append, popped_append, h.ledger.accepted_eq, List.append_assoc, hqueue,
      List.append_assoc]
  · rw [popped_append, discarded_append, handedOver_append, h.ledger.popped_eq, hdiscarded,
      List.append_nil, List.append_assoc, hhand]
    simp only [List.append_assoc]
  · rw [discarded_append, hdiscarded, List.append_nil]
    exact h.discarded_prefix_append e
  · rw [hserver]
    exact h.notStart_append he
  · rw [hserver, handedOver_append]
    intro hnone
    rw [h.handedOver_eq hnone, hhanded hnone, List.append_nil]

/-- The ledger after a push. -/
theorem push (h : Started tr s) (data : Buffer) :
    Started (tr ++ [.push data (s.pushData data).2]) (s.pushData data).1 := by
  obtain ⟨hhand, hserver⟩ := pushData_frame s data
  rcases pushData_cases s data with ⟨hlt, hacc, hqueue⟩ | ⟨-, hacc, hqueue⟩
  · -- accepted: the frame goes to the end of the queue
    apply h.append rfl hserver
    · rw [hqueue, List.length_append, List.length_singleton]
      omega
    · rw [hqueue, hacc]
      rfl
    · rw [hhand]
      exact List.append_nil _
    · rfl
    · intro _
      rfl
  · -- rejected: the queue is as it was
    apply h.append rfl hserver
    · rw [hqueue]
      exact h.ledger.length_le
    · rw [hqueue, hacc]
      exact List.append_nil _
    · rw [hhand]
      exact List.append_nil _
    · rfl
    · intro _
      rfl

/-- The ledger after a step of the push thread. -/
theorem pushThread (h : Started tr s) :
    Started (tr ++ [s.pushThreadStep.2]) s.pushThreadStep.1 := by
  rcases pushThreadStep_cases s with ⟨hhand, hqueue, hstep⟩ | ⟨frame, rest, hhand, hqueue, hstep⟩ |
    ⟨frame, hhand, hserver, hstep⟩ | ⟨frame, hhand, hserver, hstep⟩
  · -- the queue is empty: nothing happens
    rw [hstep]
    apply h.append rfl rfl h.ledger.length_le
    · exact List.append_nil _
    · exact List.append_nil _
    · rfl
    · intro _
      rfl
  · -- the first frame moves from the queue into the hand
    rw [hstep]
    have hlen := h.ledger.length_le
    rw [hqueue, List.length_cons] at hlen
    apply h.append
    · rfl
    · rfl
    · exact (Nat.le_succ rest.length).trans hlen
    · rw [hqueue]
      exact List.append_nil _
    · rw [hhand]
      rfl
    · rfl
    · intro _
      rfl
  · -- the frame in hand goes to the server
    rw [hstep]
    apply h.append
    · rfl
    · rfl
    · exact h.ledger.length_le
    · exact List.append_nil _
    · rw [hhand]
      rfl
    · rfl
    · intro hnone
      exact absurd hnone hserver
  · -- there is no server: all frames popped so far were discarded, and so is this one
    rw [hstep]
    have hpopped : popped tr = discarded tr ++ [frame] := by
      rw [h.ledger.popped_eq, h.handedOver_eq hserver, hhand, List.append_nil]
      rfl
    refine ⟨⟨h.ledger.length_le, ?_, ?_, ?_⟩, h.notStart_append rfl, ?_⟩
    · rw [accepted_append, popped_append, h.ledger.accepted_eq]
      simp [accepted, popped]
    · rw [popped_append, discarded_append, handedOver_append, hpopped, h.handedOver_eq hserver]
      simp [popped, discarded, handedOver]
    · rw [poppedBeforeStart_of_forall (h.notStart_append rfl hserver), popped_append,
        discarded_append, hpopped]
      simp [popped, discarded]
    · rw [handedOver_append]
      intro hnone
      rw [h.handedOver_eq hserver]
      rfl

/-- The ledger after `startSelf`. -/
theorem startSelf (h : Started tr s) {s' : LiveRtspServer} (hs : s.startSelf = .ok s') :
    Started (tr ++ [.startSelf]) s' := by
  obtain ⟨hserver, hqueue, hhand⟩ := startSelf_eq_ok hs
  refine ⟨⟨?_, ?_, ?_, ?_⟩, fun hnone => absurd hnone hserver, fun hnone => absurd hnone hserver⟩
  · rw [hqueue]
    exact h.ledger.length_le
  · rw [accepted_append, popped_append, h.ledger.accepted_eq, hqueue]
    simp [accepted, popped]
  · rw [popped_append, discarded_append, handedOver_append, h.ledger.popped_eq, hhand]
    simp [popped, discarded, handedOver]
  · rw [discarded_append]
    simpa [discarded] using h.discarded_prefix_append .startSelf

theorem step (h : Started tr s) {e : Event} {s' : LiveRtspServer} (hs : Step s e s') :
    Started (tr ++ [e]) s' := by
  cases hs with
  | push data => exact h.push data
  | pushThread => exact h.pushThread
  | startSelf hok => exact h.startSelf hok

end Ledger.Started

theorem started_new : Ledger.Started [] new := by
  refine ⟨⟨by decide, rfl, rfl, List.nil_prefix⟩, fun _ => ?_, fun _ => rfl⟩
  intro e he
  cases he

theorem started_of_run {tr : List Event} {s : LiveRtspServer} (h : Run Step new tr s) :
    Ledger.Started tr s :=
  h.invariant Ledger.Started started_new fun _ _ _ _ _ hI hs => hI.step hs

/-- An accepted frame has the bytes of its push, all of them. -/
theorem len_of_mem_accepted {tr : List Event} {frame : H264Buff} (h : frame ∈ accepted tr) :
    ∃ data, .push data true ∈ tr ∧ frame.buff = data.bytes ∧
      frame.len.toInt = data.bytes.length := by
  obtain ⟨e, he, hframe⟩ := List.mem_filterMap.mp h
  cases e with
  | push data acc =>
    cases acc with
    | true =>
      obtain rfl := Option.some.inj hframe
      exact ⟨data, he, rfl, Int32.toInt_ofNat_of_lt data.length_lt⟩
    | false => cases hframe
  | pop frame => cases hframe
  | sleep => cases hframe
  | handOver buff len => cases hframe
  | discard frame => cases hframe
  | startSelf => cases hframe

/-- **The RTSP queue**: in every run the queue is bounded and every frame is accounted for, each
frame that is handed over has the bytes and the length of its push, and a push is rejected only
when ten frames are queued, which it leaves alone. -/
theorem ledger_of_run (tr : List Event) (s : LiveRtspServer) (h : Run Step new tr s) :
    Ledger tr s ∧
      (∀ frame ∈ handedOver tr, ∃ data, .push data true ∈ tr ∧ frame.buff = data.bytes ∧
        frame.len.toInt = data.bytes.length) ∧
      ∀ data s', Step s (.push data false) s' →
        s.mPushBuffList.length = 10 ∧ s'.mPushBuffList = s.mPushBuffList := by
  have hstarted := started_of_run h
  refine ⟨hstarted.ledger, fun frame hframe => ?_, fun data s' hs => ?_⟩
  · apply len_of_mem_accepted
    rw [hstarted.ledger.accepted_eq, hstarted.ledger.popped_eq]
    simp [hframe]
  · generalize hevent : Event.push data false = e at hs
    cases hs with
    | push data' =>
      obtain ⟨rfl, hacc⟩ := Event.push.inj hevent
      rcases pushData_cases s data with ⟨-, hacc', -⟩ | ⟨hge, -, hqueue⟩
      · rw [← hacc] at hacc'
        cases hacc'
      · exact ⟨le_antisymm hstarted.ledger.length_le hge, hqueue⟩
    | pushThread =>
      rcases pushThreadStep_cases s with ⟨-, -, hstep⟩ | ⟨frame, rest, -, -, hstep⟩ |
        ⟨frame, -, -, hstep⟩ | ⟨frame, -, -, hstep⟩ <;>
      · rw [hstep] at hevent
        cases hevent
    | startSelf hok => cases hevent

/-- One frame of two bytes that is pushed before `startSelf` and popped after it. -/
theorem ledger_of_run_one_frame :
    ∃ tr s, tr = [.push ⟨[0, 1], by decide⟩ true, .startSelf, .pop ⟨[0, 1], 2⟩,
        .handOver [0, 1] 2] ∧ Run Step new tr s ∧ Ledger tr s ∧
      (∀ frame ∈ handedOver tr, ∃ data, .push data true ∈ tr ∧ frame.buff = data.bytes ∧
        frame.len.toInt = data.bytes.length) ∧
      ∀ data s', Step s (.push data false) s' →
        s.mPushBuffList.length = 10 ∧ s'.mPushBuffList = s.mPushBuffList := by
  have hrun := (((Run.nil.snoc (Step.push new ⟨[0, 1], by decide⟩)).snoc (.startSelf rfl)).snoc
    (.pushThread _)).snoc (.pushThread _)
  exact ⟨_, _, rfl, hrun, ledger_of_run _ _ hrun⟩

end Mvr.LiveRtspServer
