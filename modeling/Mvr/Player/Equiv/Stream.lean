import Mvr.LiveRtspServer.Equiv
import Mvr.Lts.Simulation
import Mvr.Player.Stream
import Mvr.RtspPipe.Equiv
import Mvr.Venc.Equiv

/-!
# From the encoder to the pipe

The encoder loop and the element are components of a channel: a run of the channel projects to a
run of either (`projects_venc`, `projects_rtspServer0`), whose invariants then hold in it.  What the
channel adds is the frames that get lost on their way: those popped before there is a server are
deleted, and those handed over before there is a subsession are dropped.  Both end once there is a
subsession, so that the lost frames come before the sent ones (`Delivered.queued_eq`), and the pipe
holds packets of the encoder in their order (`delivered_of_run`).

`drained_of_run` is about progress: from any state with a subsession, the push thread alone empties
the queue into the pipe, as long as whoever reads the pipe lets every `write` return.
-/

namespace Mvr.Player.Stream

open LiveRtspServer (Event accepted popped handedOver discarded)

/-! ### The history of a run -/

/-- The step of the encoder loop. -/
def Label.venc : Label → Option Venc.Outcomes
  | idle o => some o
  | packet o _ _ => some o
  | _ => none

/-- The step of the element. -/
def Label.rtspServer0 : Label → Option Event
  | packet _ framedata accepted => some (.push framedata accepted)
  | pushThread e _ _ => some e
  | startSelf => some .startSelf
  | _ => none

/-- The packet that was given to the callback. -/
def Label.offered : Label → Option (List UInt8)
  | packet _ framedata _ => some framedata.bytes
  | _ => none

/-- The packet that was queued. -/
def Label.queued : Label → Option (List UInt8)
  | packet _ framedata true => some framedata.bytes
  | _ => none

/-- The packet that was written into the pipe, with the answers of `write`. -/
def Label.sent : Label → Option RtspPipe.Push
  | pushThread (.handOver buff _) write true => some ⟨buff, write⟩
  | _ => none

/-- The packet that came off the queue before there was a pipe. -/
def Label.lost : Label → Option (List UInt8)
  | pushThread (.handOver buff _) _ false => some buff
  | pushThread (.discard frame) _ _ => some frame.buff
  | _ => none

/-- The packets given to the callback. -/
def offered (tr : List Label) : List (List UInt8) := tr.filterMap Label.offered

/-- The packets queued. -/
def queued (tr : List Label) : List (List UInt8) := tr.filterMap Label.queued

/-- The packets written into the pipe. -/
def sent (tr : List Label) : List RtspPipe.Push := tr.filterMap Label.sent

/-- The packets that came too early for the pipe. -/
def lost (tr : List Label) : List (List UInt8) := tr.filterMap Label.lost

/-- The packets on their way: the one in the push thread's hand, and the queue. -/
def waiting (s : Stream) : List (List UInt8) :=
  (s.rtspServer0.inHand.toList ++ s.rtspServer0.mPushBuffList).map H264Buff.buff

/-! ### The components -/

/-- An iteration hands its packets over after those of the iterations before. -/
theorem handed_of_step {venc venc' : Venc.Loop} {o : Venc.Outcomes} (h : venc.Step o venc') :
    venc'.calls.filterMap Venc.Call.handed =
      venc.calls.filterMap Venc.Call.handed ++ handedBy venc venc' := by
  have hprefix : venc.calls <+: venc'.calls := by
    rcases Venc.body_cases h with ⟨-, rfl⟩ | ⟨-, -, -, rfl⟩ | ⟨-, data, hcalls⟩
    · exact List.prefix_rfl
    · exact List.prefix_append ..
    · rw [hcalls]
      exact List.prefix_append ..
  obtain ⟨new, hnew⟩ := hprefix
  unfold handedBy
  rw [← hnew, List.filterMap_append, List.drop_left]

theorem projects_venc {s s' : Stream} {l : Label} (h : Step s l s') :
    Run.Projects Venc.Loop.Step Stream.venc Label.venc s l s' := by
  cases h with
  | idle h hquiet => exact h
  | packet h hdata => exact h
  | pushThread h => rfl
  | startSelf hnew h => rfl
  | establish hserver hnew => rfl

theorem projects_rtspServer0 {s s' : Stream} {l : Label} (h : Step s l s') :
    Run.Projects LiveRtspServer.Step Stream.rtspServer0 Label.rtspServer0 s l s' := by
  cases h with
  | idle h hquiet => rfl
  | packet h hdata => exact LiveRtspServer.Step.push _ _
  | pushThread h => exact LiveRtspServer.Step.pushThread _
  | startSelf hnew h => exact LiveRtspServer.Step.startSelf h
  | establish hserver hnew => rfl

/-- The encoder loop of a channel runs as it does alone. -/
theorem run_venc {tr : List Label} {s : Stream} (h : Run Step init tr s) :
    Run Venc.Loop.Step Venc.Loop.init (tr.filterMap Label.venc) s.venc :=
  h.project fun _ _ _ => projects_venc

/-- The element of a channel runs as it does alone. -/
theorem run_rtspServer0 {tr : List Label} {s : Stream} (h : Run Step init tr s) :
    Run LiveRtspServer.Step LiveRtspServer.new (tr.filterMap Label.rtspServer0) s.rtspServer0 :=
  h.project fun _ _ _ => projects_rtspServer0

/-- The callback was given the packets of the encoder, all of them and in their order. -/
theorem fetched_eq_offered {tr : List Label} {s : Stream} (h : Run Step init tr s) :
    s.venc.calls.filterMap Venc.Call.fetched = offered tr := by
  rw [← Venc.handed_eq_fetched (run_venc h)]
  refine h.invariant (fun tr s => s.venc.calls.filterMap Venc.Call.handed = offered tr) rfl ?_
  intro tr s l s' _ hinv hs
  unfold offered at hinv ⊢
  rw [List.filterMap_append, ← hinv]
  cases hs with
  | idle h hquiet => rw [handed_of_step h, hquiet]; rfl
  | packet h hdata => rw [handed_of_step h, hdata]; rfl
  | pushThread h => exact (List.append_nil _).symm
  | startSelf hnew h => exact (List.append_nil _).symm
  | establish hserver hnew => exact (List.append_nil _).symm

/-- The element queued what the callback says it did. -/
theorem map_buff_accepted {tr : List Label} {s : Stream} (h : Run Step init tr s) :
    (accepted (tr.filterMap Label.rtspServer0)).map H264Buff.buff = queued tr := by
  refine h.invariant
    (fun tr _ => (accepted (tr.filterMap Label.rtspServer0)).map H264Buff.buff = queued tr) rfl ?_
  intro tr s l s' _ hinv hs
  unfold queued at hinv ⊢
  rw [List.filterMap_append, LiveRtspServer.accepted, List.filterMap_append, List.filterMap_append,
    List.map_append, ← LiveRtspServer.accepted, hinv]
  congr 1
  cases hs with
  | idle h hquiet => rfl
  | @packet o venc framedata h hdata => cases (s.rtspCallBack0 framedata).2 <;> rfl
  | @pushThread write mSubSersion h =>
    rcases s.rtspServer0.pushThreadStep_cases with ⟨-, -, hstep⟩ | ⟨frame, rest, -, -, hstep⟩ |
      ⟨frame, -, -, hstep⟩ | ⟨frame, -, -, hstep⟩ <;>
    · rw [hstep]
      rfl
  | startSelf hnew h => rfl
  | establish hserver hnew => rfl

/-! ### The packets that came off the queue -/

section Append

variable (tr : List Label) (l : Label)

theorem sent_append : sent (tr ++ [l]) = sent tr ++ sent [l] := List.filterMap_append

theorem lost_append : lost (tr ++ [l]) = lost tr ++ lost [l] := List.filterMap_append

end Append

/-- What was added to the pipe. -/
def piped (tr : List Label) : List UInt8 :=
  ((sent tr).map fun p => p.added p.buff.length).flatten

/-- The packets that came off the queue were lost at first and sent later. -/
structure Routed (tr : List Label) (s : Stream) : Prop where
  popped_eq : (popped (tr.filterMap Label.rtspServer0)).map H264Buff.buff =
    lost tr ++ (sent tr).map RtspPipe.Push.buff ++ s.rtspServer0.inHand.toList.map H264Buff.buff
  sent_eq : s.mSubSersion = none → sent tr = []
  server_of_pipe : s.mSubSersion ≠ none → s.rtspServer0.mRtspServer ≠ none
  pipe_eq : ∀ pipe ∈ s.mSubSersion, pipe = piped tr

namespace Routed

variable {tr : List Label} {s s' : Stream} {l : Label}

/-- A step that keeps the server and the subsession: what it takes into the hand and what it does
with the packet in the hand decide. -/
theorem append (h : Routed tr s)
    (hhand : s.rtspServer0.inHand.toList.map H264Buff.buff ++
        (popped ([l].filterMap Label.rtspServer0)).map H264Buff.buff =
      lost [l] ++ (sent [l]).map RtspPipe.Push.buff ++
        s'.rtspServer0.inHand.toList.map H264Buff.buff)
    (hlost : lost [l] = [] ∨ s.mSubSersion = none)
    (hsent : s.mSubSersion = none → sent [l] = [])
    (hpipe : s'.mSubSersion = s.mSubSersion.map (· ++ piped [l]))
    (hserver : s.rtspServer0.mRtspServer ≠ none → s'.rtspServer0.mRtspServer ≠ none) :
    Routed (tr ++ [l]) s' := by
  have hnone : s'.mSubSersion = none ↔ s.mSubSersion = none := by
    rw [hpipe, Option.map_eq_none_iff]
  refine ⟨?_, ?_, ?_, ?_⟩
  · have hcomm : (sent tr).map RtspPipe.Push.buff ++ lost [l] =
        lost [l] ++ (sent tr).map RtspPipe.Push.buff := by
      rcases hlost with hnil | hsub
      · rw [hnil, List.append_nil, List.nil_append]
      · rw [h.sent_eq hsub, List.map_nil, List.append_nil, List.nil_append]
    rw [List.filterMap_append, LiveRtspServer.popped, List.filterMap_append, List.map_append,
      ← LiveRtspServer.popped, ← LiveRtspServer.popped, h.popped_eq, List.append_assoc, hhand,
      lost_append, sent_append, List.map_append]
    simp only [List.append_assoc]
    rw [← List.append_assoc _ (lost [l]), hcomm]
    simp only [List.append_assoc]
  · intro hsub
    rw [sent_append, h.sent_eq (hnone.mp hsub), hsent (hnone.mp hsub), List.append_nil]
  · intro hsub
    exact hserver (h.server_of_pipe fun hsub' => hsub (hnone.mpr hsub'))
  · rw [hpipe]
    rintro pipe' hpipe'
    obtain ⟨pipe, hmem, rfl⟩ := Option.map_eq_some_iff.mp hpipe'
    rw [h.pipe_eq pipe hmem]
    unfold piped
    rw [sent_append, List.map_append, List.flatten_append]

theorem pushThread (h : Routed tr s) {write : RtspPipe.Writer}
    {mSubSersion : Option (List UInt8)}
    (hdeliver : deliver s.mSubSersion s.rtspServer0.pushThreadStep.2 write = .ok mSubSersion) :
    Routed (tr ++ [.pushThread s.rtspServer0.pushThreadStep.2 write s.mSubSersion.isSome])
      { s with rtspServer0 := s.rtspServer0.pushThreadStep.1, mSubSersion } := by
  have hsame : s.mSubSersion = s.mSubSersion.map (· ++ []) := by simp
  rcases s.rtspServer0.pushThreadStep_cases with ⟨hhand, -, hstep⟩ |
    ⟨frame, rest, hhand, -, hstep⟩ | ⟨frame, hhand, -, hstep⟩ | ⟨frame, hhand, hserver, hstep⟩
  · -- the queue is empty
    rw [hstep] at hdeliver ⊢
    cases hdeliver
    exact h.append (List.append_nil _) (Or.inl rfl) (fun _ => rfl) hsame id
  · -- a frame moves into the hand
    rw [hstep] at hdeliver ⊢
    cases hdeliver
    exact h.append (by rw [hhand]; rfl) (Or.inl rfl) (fun _ => rfl) hsame id
  · -- the frame is handed over
    rw [hstep] at hdeliver ⊢
    have hok := RtspPipe.RTSPOnDemandServer.pushData_eq_ok
      (p := ⟨frame.buff, write⟩) le_rfl s.mSubSersion
    unfold deliver at hdeliver
    dsimp only at hdeliver hok
    rw [hok] at hdeliver
    obtain rfl := Except.ok.inj hdeliver
    cases hsub : s.mSubSersion with
    | none =>
      -- to a server without a subsession
      exact h.append (by rw [hhand]; rfl) (Or.inr hsub) (fun _ => rfl) (by rw [hsub]; rfl) id
    | some pipe =>
      refine h.append (by rw [hhand]; rfl) (Or.inl rfl) (fun hnone => ?_) ?_ id
      · rw [hsub] at hnone
        cases hnone
      · rw [hsub]
        simp [piped, sent, Label.sent]
  · -- there is no server, and therefore no subsession yet
    have hsub : s.mSubSersion = none := by
      by_contra hsome
      exact h.server_of_pipe hsome hserver
    rw [hstep] at hdeliver ⊢
    cases hdeliver
    exact h.append (by rw [hhand]; rfl) (Or.inr hsub) (fun _ => rfl) hsame id

theorem step (h : Routed tr s) (hs : Step s l s') : Routed (tr ++ [l]) s' := by
  have hsame : s.mSubSersion = s.mSubSersion.map (· ++ []) := by simp
  cases hs with
  | idle hvenc hquiet =>
    exact h.append (List.append_nil _) (Or.inl rfl) (fun _ => rfl) hsame id
  | @packet o venc framedata hvenc hdata =>
    obtain ⟨hhand, hserver⟩ := s.rtspServer0.pushData_frame framedata
    refine h.append ?_ (Or.inl rfl) (fun _ => rfl) hsame fun hsome => ?_
    · unfold rtspCallBack0
      dsimp only
      rw [hhand]
      exact List.append_nil _
    · unfold rtspCallBack0
      dsimp only
      rwa [hserver]
  | pushThread hdeliver => exact h.pushThread hdeliver
  | startSelf hnew hstart =>
    obtain ⟨hserver, -, hhand⟩ := LiveRtspServer.startSelf_eq_ok hstart
    refine h.append ?_ (Or.inl rfl) (fun _ => rfl) hsame fun _ => hserver
    rw [hhand]
    exact List.append_nil _
  | establish hserver hnew =>
    have hsent : sent (tr ++ [.establish]) = [] := by
      rw [sent_append, h.sent_eq hnew]
      rfl
    refine ⟨?_, fun _ => hsent, fun _ => hserver, ?_⟩
    · have hevents : (tr ++ [Label.establish]).filterMap Label.rtspServer0 =
          tr.filterMap Label.rtspServer0 := by simp [Label.rtspServer0]
      rw [hevents, h.popped_eq, lost_append, hsent, h.sent_eq hnew]
      simp [lost, Label.lost]
    · rintro pipe ⟨⟩
      rw [piped, hsent]
      rfl

end Routed

theorem routed_of_run {tr : List Label} {s : Stream} (h : Run Step init tr s) : Routed tr s := by
  refine h.invariant Routed ⟨rfl, fun _ => rfl, fun hsome => absurd rfl hsome, ?_⟩
    fun _ _ _ _ _ hI hs => hI.step hs
  rintro pipe ⟨⟩

/-! ### Every packet -/

/-- Every packet of a run is accounted for, from the encoder to the pipe. -/
structure Delivered (tr : List Label) (s : Stream) : Prop where
  /-- The packets the encoder had are those given to the callback. -/
  fetched_eq : s.venc.calls.filterMap Venc.Call.fetched = offered tr
  /-- Those that were queued came too early, were sent, or are on their way. -/
  queued_eq : queued tr = lost tr ++ (sent tr).map RtspPipe.Push.buff ++ s.waiting
  /-- At most ten are in the queue, and one in the hand. -/
  waiting_le : s.waiting.length ≤ 11
  /-- The pipe holds what `write` accepted of the packets sent. -/
  pipe_eq : ∀ pipe ∈ s.mSubSersion, pipe = piped tr

theorem queued_sublist_offered (tr : List Label) : (queued tr).Sublist (offered tr) := by
  have hfilter : ∀ l : Label, l.queued = none ∨ l.queued = l.offered := by
    rintro (_ | ⟨o, framedata, _ | _⟩ | _ | _ | _)
    · exact Or.inl rfl
    · exact Or.inl rfl
    · exact Or.inr rfl
    · exact Or.inl rfl
    · exact Or.inl rfl
    · exact Or.inl rfl
  unfold queued offered
  induction tr with
  | nil => exact List.Sublist.refl _
  | cons l tr ih =>
    rcases hfilter l with hnone | hsame
    · rw [List.filterMap_cons_none hnone]
      exact ih.trans ((List.sublist_cons_self l tr).filterMap _)
    · cases hoff : l.offered with
      | none =>
        rw [List.filterMap_cons_none (hsame.trans hoff), List.filterMap_cons_none hoff]
        exact ih
      | some pack =>
        rw [List.filterMap_cons_some (hsame.trans hoff), List.filterMap_cons_some hoff]
        exact ih.cons_cons pack

theorem delivered_of_routed {tr : List Label} {s : Stream} (h : Run Step init tr s) :
    Delivered tr s := by
  have hledger := (LiveRtspServer.started_of_run (run_rtspServer0 h)).ledger
  have hrouted := routed_of_run h
  refine ⟨fetched_eq_offered h, ?_, ?_, hrouted.pipe_eq⟩
  · rw [← map_buff_accepted h, hledger.accepted_eq, List.map_append, hrouted.popped_eq, waiting,
      List.map_append]
    simp only [List.append_assoc]
  · unfold waiting
    rw [List.length_map, List.length_append]
    have hhand : s.rtspServer0.inHand.toList.length ≤ 1 := by
      cases s.rtspServer0.inHand <;> simp
    have hqueue := hledger.length_le
    omega

/-- If `write` does not fail, the pipe holds the packets that were sent. -/
theorem piped_of_not_fails {tr : List Label}
    (h : ∀ p ∈ sent tr, ¬ p.write.Fails 0 p.buff.length) :
    piped tr = ((sent tr).map RtspPipe.Push.buff).flatten := by
  unfold piped
  congr 1
  apply List.map_congr_left
  intro p hp
  rw [RtspPipe.Push.added, (RtspPipe.accepted_eq_iff p.write 0 le_rfl).mpr (h p hp),
    List.take_length]

/-- **The stream of a channel**: in every interleaving every packet is accounted for from the
encoder to the pipe; a packet is rejected only when ten are queued; and as long as `write` does not
fail the pipe holds whole packets of the encoder, in their order and none of them twice. -/
theorem delivered_of_run {tr : List Label} {s : Stream} (h : Run Step init tr s) :
    Delivered tr s ∧
      (∀ o framedata s', Step s (.packet o framedata false) s' →
        s.rtspServer0.mPushBuffList.length = 10) ∧
      ((∀ p ∈ sent tr, ¬ p.write.Fails 0 p.buff.length) → ∀ pipe ∈ s.mSubSersion,
        ∃ packs : List (List UInt8), packs.Sublist (s.venc.calls.filterMap Venc.Call.fetched) ∧
          pipe = packs.flatten) := by
  have hdelivered := delivered_of_routed h
  refine ⟨hdelivered, fun o framedata s' hs => ?_, fun hwrite pipe hpipe => ?_⟩
  · generalize hl : Label.packet o framedata false = l at hs
    cases hs with
    | packet hvenc hdata =>
      obtain ⟨-, rfl, hacc⟩ := Label.packet.inj hl
      have hledger := (LiveRtspServer.started_of_run (run_rtspServer0 h)).ledger
      rcases s.rtspServer0.pushData_cases framedata with ⟨-, hacc', -⟩ | ⟨hge, -, -⟩
      · exact absurd (hacc.trans hacc') Bool.false_ne_true
      · exact le_antisymm hledger.length_le hge
    | idle hvenc hquiet => cases hl
    | pushThread hdeliver => cases hl
    | startSelf hnew hstart => cases hl
    | establish hserver hnew => cases hl
  · refine ⟨(sent tr).map RtspPipe.Push.buff, ?_, ?_⟩
    · rw [hdelivered.fetched_eq]
      refine List.Sublist.trans ?_ (queued_sublist_offered tr)
      rw [hdelivered.queued_eq]
      exact (List.sublist_append_right ..).trans (List.sublist_append_left ..)
    · rw [hdelivered.pipe_eq pipe hpipe, piped_of_not_fails hwrite]

/-- A packet of two bytes. -/
def twoByteFrame : Buffer := ⟨[0x65, 0x88], by decide⟩

/-- The packet is queued before the server is there, and the subsession is created after it. -/
def earlyPacket : List Label :=
  [.packet (Venc.readyOutcomes 0 0) twoByteFrame true, .startSelf, .establish]

theorem run_earlyPacket : ∃ s, Run Step init earlyPacket s ∧ s.mSubSersion = some [] ∧
    s.waiting = [[0x65, 0x88]] ∧ s.rtspServer0.pushThreadStep.2 = .pop ⟨[0x65, 0x88], 2⟩ := by
  have hvenc : init.venc.Step (Venc.readyOutcomes 0 0)
      { data := some 4096, calls := Venc.packetCalls (Venc.readyOutcomes 0 0) 4096 } := rfl
  have hpacket := Run.nil.snoc (@Step.packet init _ _ twoByteFrame hvenc rfl)
  have hstart := hpacket.snoc (Step.startSelf rfl rfl)
  exact ⟨_, hstart.snoc (Step.establish (by simp) rfl), rfl, rfl, rfl⟩

theorem not_fails_twoBytes : ¬ (RtspPipe.twoBytes 5).Fails 0 2 := by
  rintro (⟨-, hfail⟩ | ⟨-, -, hfails⟩)
  · exact absurd hfail (by decide)
  · rcases hfails with ⟨hn, -⟩ | ⟨hn, -, -⟩ <;> exact absurd hn (by decide)

/-- The packet goes through the pipe. -/
theorem delivered_earlyPacket : ∃ tr s, Run Step init tr s ∧ Delivered tr s ∧
    s.mSubSersion = some [0x65, 0x88] ∧
    ∃ packs : List (List UInt8), packs.Sublist (s.venc.calls.filterMap Venc.Call.fetched) ∧
      [0x65, 0x88] = packs.flatten := by
  have hvenc : init.venc.Step (Venc.readyOutcomes 0 0)
      { data := some 4096, calls := Venc.packetCalls (Venc.readyOutcomes 0 0) 4096 } := rfl
  have hpacket := Run.nil.snoc (@Step.packet init _ _ twoByteFrame hvenc rfl)
  have hestablish := (hpacket.snoc (Step.startSelf rfl rfl)).snoc (Step.establish (by simp) rfl)
  have hpop := hestablish.snoc (@Step.pushThread _ (RtspPipe.twoBytes 5) _ rfl)
  have hrun := hpop.snoc (@Step.pushThread _ (RtspPipe.twoBytes 5) _ rfl)
  obtain ⟨hdelivered, -, hwhole⟩ := delivered_of_run hrun
  refine ⟨_, _, hrun, hdelivered, rfl, hwhole ?_ _ rfl⟩
  intro p hp
  obtain rfl := List.mem_singleton.mp hp
  exact not_fails_twoBytes

/-! ### Progress of the push thread -/

/-- A step of the push thread in which `write` does not fail. -/
def Label.Flows : Label → Prop
  | pushThread (.handOver buff _) write _ => ¬ write.Fails 0 buff.length
  | pushThread _ _ _ => True
  | _ => False

/-- The steps the push thread needs to empty its hand and the queue. -/
def debt (s : Stream) : ℕ :=
  s.rtspServer0.inHand.toList.length + 2 * s.rtspServer0.mPushBuffList.length

/-- With nothing to do for the push thread, nothing is on its way. -/
theorem waiting_of_debt {s : Stream} (h : s.debt = 0) : s.waiting = [] := by
  unfold debt at h
  have hhand : s.rtspServer0.inHand.toList = [] := List.eq_nil_of_length_eq_zero (by omega)
  have hqueue : s.rtspServer0.mPushBuffList = [] := List.eq_nil_of_length_eq_zero (by omega)
  rw [waiting, hhand, hqueue]
  rfl

/-- The push thread can always take its next step. -/
theorem exists_pushThread (s : Stream) (write : RtspPipe.Writer) :
    ∃ s', Step s (.pushThread s.rtspServer0.pushThreadStep.2 write s.mSubSersion.isSome) s' := by
  have hok : ∃ mSubSersion,
      deliver s.mSubSersion s.rtspServer0.pushThreadStep.2 write = .ok mSubSersion := by
    unfold deliver
    cases s.rtspServer0.pushThreadStep.2 with
    | handOver buff len =>
      dsimp only
      rw [RtspPipe.RTSPOnDemandServer.pushData_eq_ok (p := ⟨buff, write⟩) le_rfl]
      exact ⟨_, rfl⟩
    | push data acc => exact ⟨_, rfl⟩
    | pop frame => exact ⟨_, rfl⟩
    | sleep => exact ⟨_, rfl⟩
    | discard frame => exact ⟨_, rfl⟩
    | startSelf => exact ⟨_, rfl⟩
  obtain ⟨mSubSersion, hdeliver⟩ := hok
  exact ⟨_, Step.pushThread hdeliver⟩

/-- Such a step moves the first packet on, and nothing is lost. -/
theorem flow_of_step {s s' : Stream} {l : Label} {pipe : List UInt8} (hs : Step s l s')
    (hl : l.Flows) (hserver : s.rtspServer0.mRtspServer ≠ none)
    (hsub : s.mSubSersion = some pipe) :
    s'.rtspServer0.mRtspServer ≠ none ∧ s'.debt = s.debt - 1 ∧
      ∃ out, s'.mSubSersion = some (pipe ++ out) ∧
        s.waiting.flatten = out ++ s'.waiting.flatten := by
  cases hs with
  | idle hvenc hquiet => cases hl
  | packet hvenc hdata => cases hl
  | startSelf hnew hstart => cases hl
  | establish hserver' hnew => cases hl
  | @pushThread write mSubSersion hdeliver =>
    rcases s.rtspServer0.pushThreadStep_cases with ⟨hhand, hqueue, hstep⟩ |
      ⟨frame, rest, hhand, hqueue, hstep⟩ | ⟨frame, hhand, -, hstep⟩ | ⟨frame, -, hnone, -⟩
    · rw [hstep] at hdeliver ⊢
      cases hdeliver
      refine ⟨hserver, ?_, [], ?_, rfl⟩
      · simp [debt, hhand, hqueue]
      · rw [hsub, List.append_nil]
    · rw [hstep] at hdeliver ⊢
      cases hdeliver
      refine ⟨hserver, ?_, [], ?_, ?_⟩
      · simp [debt, hhand, hqueue]
        omega
      · rw [hsub, List.append_nil]
      · simp [waiting, hhand, hqueue]
    · rw [hstep] at hdeliver hl ⊢
      unfold deliver at hdeliver
      have hok := RtspPipe.RTSPOnDemandServer.pushData_eq_ok
        (p := ⟨frame.buff, write⟩) le_rfl s.mSubSersion
      dsimp only at hdeliver hok
      rw [hok] at hdeliver
      obtain rfl := Except.ok.inj hdeliver
      refine ⟨hserver, ?_, frame.buff, ?_, ?_⟩
      · simp [debt, hhand]
      · rw [hsub, Option.map_some, RtspPipe.Push.added,
          (RtspPipe.accepted_eq_iff write 0 le_rfl).mpr hl, List.take_length]
      · simp [waiting, hhand]
    · exact absurd hnone hserver

theorem flow_of_run {s s' : Stream} {tr : List Label} {pipe : List UInt8} (h : Run Step s tr s')
    (hl : ∀ l ∈ tr, l.Flows) (hserver : s.rtspServer0.mRtspServer ≠ none)
    (hsub : s.mSubSersion = some pipe) :
    s'.rtspServer0.mRtspServer ≠ none ∧ s'.debt = s.debt - tr.length ∧
      ∃ out, s'.mSubSersion = some (pipe ++ out) ∧
        s.waiting.flatten = out ++ s'.waiting.flatten := by
  induction h with
  | nil => exact ⟨hserver, rfl, [], by rw [hsub, List.append_nil], rfl⟩
  | @snoc tr s₁ s' l h hs ih =>
    obtain ⟨hserver₁, hdebt₁, out₁, hsub₁, hflow₁⟩ :=
      ih fun l' hl' => hl l' (List.mem_append_left _ hl')
    have hlast := hl l (List.mem_append_right _ (List.mem_singleton.mpr rfl))
    obtain ⟨hserver', hdebt', out', hsub', hflow'⟩ := flow_of_step hs hlast hserver₁ hsub₁
    refine ⟨hserver', ?_, out₁ ++ out', ?_, ?_⟩
    · rw [hdebt', hdebt₁, List.length_append, List.length_singleton, Nat.sub_sub]
    · rw [hsub', List.append_assoc]
    · rw [hflow₁, hflow', List.append_assoc]

/-- **The queue drains**: once there is a subsession, the push thread can take its next step
whatever the calls of `write` answer, if only they return, and 21 of its steps, if `write` does not
fail, write every packet that is on its way into the pipe, in order. -/
theorem drained_of_run {tr : List Label} {s : Stream} {pipe : List UInt8} (h : Run Step init tr s)
    (hsub : s.mSubSersion = some pipe) :
    (∀ write, ∃ s',
      Step s (.pushThread s.rtspServer0.pushThreadStep.2 write s.mSubSersion.isSome) s') ∧
    ∀ tr' s', Run Step s tr' s' → (∀ l ∈ tr', l.Flows) → 21 ≤ tr'.length →
      s'.waiting = [] ∧ s'.mSubSersion = some (pipe ++ s.waiting.flatten) := by
  refine ⟨exists_pushThread s, fun tr' s' h' hl hlen => ?_⟩
  have hserver := (routed_of_run h).server_of_pipe (by rw [hsub]; exact Option.some_ne_none pipe)
  have hqueue := (LiveRtspServer.started_of_run (run_rtspServer0 h)).ledger.length_le
  obtain ⟨-, hdebt, out, hsub', hflow⟩ := flow_of_run h' hl hserver hsub
  have hdone : s'.waiting = [] := by
    apply waiting_of_debt
    have hhand : s.rtspServer0.inHand.toList.length ≤ 1 := by
      cases s.rtspServer0.inHand <;> simp
    rw [hdebt]
    unfold debt
    omega
  rw [hdone, List.flatten_nil, List.append_nil] at hflow
  exact ⟨hdone, by rw [hsub', hflow]⟩

/-- From the state in which the packet waits the push thread writes it into the empty pipe. -/
theorem drained_earlyPacket : ∃ s, Run Step init earlyPacket s ∧ s.waiting = [[0x65, 0x88]] ∧
    (∃ s', Step s (.pushThread (.pop ⟨[0x65, 0x88], 2⟩) (RtspPipe.twoBytes 5) true) s') ∧
    ∀ tr' s', Run Step s tr' s' → (∀ l ∈ tr', l.Flows) → 21 ≤ tr'.length →
      s'.waiting = [] ∧ s'.mSubSersion = some [0x65, 0x88] := by
  obtain ⟨s, hrun, hsub, hwaiting, hpop⟩ := run_earlyPacket
  obtain ⟨hgo, hdrain⟩ := drained_of_run hrun hsub
  rw [hwaiting] at hdrain
  have hnext := hgo (RtspPipe.twoBytes 5)
  rw [hpop, hsub] at hnext
  exact ⟨s, hrun, hwaiting, hnext, hdrain⟩

end Mvr.Player.Stream
