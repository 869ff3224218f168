import Mvr.LwsMinimal.Equiv

/-!
# What the sessions of `lws-minimal` are sent

`feed user tr` is what arrived at the server since the session `user` was established, and what was
written to the session.  The server keeps one message only, so that a session may miss some of them;
but what it is sent is in the order of arrival, nothing is sent twice, and a session that is not
waiting for its turn has the newest message (`fed_of_run`).  The invariant `Fed` splits what arrived
into the messages up to the one the session sent last and the ones after it.

The block of the pending message is the only one the callback holds: `replay_of_run`.
-/

namespace Mvr.LwsMinimal

/-! ### The history of a session -/

/-- The text of a write. -/
def Call.written : Call → Option (List UInt8)
  | write _ _ text => some text
  | _ => none

/-- The call allocated a block. -/
def Call.isMalloc : Call → Bool
  | malloc _ => true
  | _ => false

/-- What a call does to the blocks of the messages. -/
def Call.events : Call → List (Ledger.Event Ptr)
  | onWritable _ => []
  | write _ payload _ => [.use payload]
  | malloc payload => [.acquire payload]
  | free payload => [.release payload]

/-- What concerns a session: the messages that were kept since it was established, and those it was
sent. -/
structure Feed where
  received : List (List UInt8)
  sent : List (List UInt8)
  deriving DecidableEq

namespace System

/-- The calls of a step. -/
def Label.calls : Label → List Call
  | serverWriteable _ _ _ calls => calls
  | receive _ calls => calls
  | _ => []

/-- The message a step kept. -/
def Label.stored : Label → Option (List UInt8)
  | receive text calls => if calls.any Call.isMalloc then some text else none
  | _ => none

/-- The messages that were kept. -/
def stored (tr : List Label) : List (List UInt8) := tr.filterMap Label.stored

/-- What happens to the feed of a session. -/
def feedAfter (user : PssPtr) (f : Feed) : Label → Feed
  | .established user' _ => if user' = user then ⟨[], []⟩ else f
  | .serverWriteable user' _ true calls =>
    if user' = user then ⟨f.received, f.sent ++ calls.filterMap Call.written⟩ else f
  | .receive text calls =>
    ⟨f.received ++ (Label.receive text calls).stored.toList, f.sent⟩
  | _ => f

/-- The feed of a session. -/
def feed (user : PssPtr) (tr : List Label) : Feed := tr.foldl (feedAfter user) ⟨[], []⟩

theorem feed_append (user : PssPtr) (tr : List Label) (l : Label) :
    feed user (tr ++ [l]) = feedAfter user (feed user tr) l := by
  rw [feed, List.foldl_append]
  rfl

theorem stored_append (tr : List Label) (l : Label) :
    stored (tr ++ [l]) = stored tr ++ l.stored.toList := by
  rw [stored, List.filterMap_append]
  cases h : l.stored <;> simp [h, stored]

/-- The messages of a session are those up to the last one it sent, and the newer ones. -/
structure Fed (f : Feed) (n : ℕ) (pss : Pss) (vhd : Vhd) (old new : List (List UInt8)) : Prop where
  received_eq : f.received = old ++ new
  sent_sublist : f.sent.Sublist old
  getLast?_sent : f.sent.getLast? = old.getLast?
  length_le : new.length ≤ n
  last_eq : pss.last = Int32.ofNat (n - new.length)
  pending_eq : ∀ payload ∈ vhd.amsg.payload, new ≠ [] → new.getLast? = some payload.text

/-- The sessions and the counter of the server. -/
structure Feeds (tr : List Label) (s : System) : Prop where
  current_eq : s.vhd.current = Int32.ofNat (stored tr).length
  fed : ∀ p ∈ s.sessions, ∀ pss, s.vhd.heap p.1 = some pss →
    ∃ old new, Fed (feed p.1 tr) (stored tr).length pss s.vhd old new

/-- A session that was just written to, or that was just established, has nothing to catch up
with. -/
theorem Fed.caughtUp {f : Feed} {n : ℕ} {pss : Pss} {vhd : Vhd} (hsent : f.sent.Sublist f.received)
    (hlast : f.sent.getLast? = f.received.getLast?) (hpss : pss.last = Int32.ofNat n) :
    Fed f n pss vhd f.received [] := by
  refine ⟨(List.append_nil _).symm, hsent, hlast, Nat.zero_le n, hpss, fun payload _ hne => ?_⟩
  exact absurd rfl hne

/-- A session is not concerned by a change in its links. -/
theorem Fed.congr {f : Feed} {n : ℕ} {pss pss' : Pss} {vhd vhd' : Vhd} {old new : List (List UInt8)}
    (h : Fed f n pss vhd old new) (hlast : pss'.last = pss.last)
    (hpayload : vhd'.amsg.payload = vhd.amsg.payload) : Fed f n pss' vhd' old new := by
  refine ⟨h.received_eq, h.sent_sublist, h.getLast?_sent, h.length_le, hlast.trans h.last_eq, ?_⟩
  rw [hpayload]
  exact h.pending_eq

/-- A new message is one more to catch up with. -/
theorem Fed.store {f : Feed} {n : ℕ} {pss : Pss} {vhd vhd' : Vhd} {old new : List (List UInt8)}
    (h : Fed f n pss vhd old new) (payload : Payload)
    (hpayload : vhd'.amsg.payload = some payload) :
    Fed ⟨f.received ++ [payload.text], f.sent⟩ (n + 1) pss vhd' old (new ++ [payload.text]) := by
  refine ⟨?_, h.sent_sublist, h.getLast?_sent, ?_, ?_, ?_⟩
  · rw [h.received_eq, List.append_assoc]
  · rw [List.length_append, List.length_singleton]
    exact Nat.succ_le_succ h.length_le
  · rw [h.last_eq, List.length_append, List.length_singleton, Nat.add_sub_add_right]
  · intro payload' hpayload' _
    rw [hpayload] at hpayload'
    obtain rfl := Option.some.inj hpayload'
    exact List.getLast?_concat

/-- A session that lags behind is sent the newest message. -/
theorem Fed.write {f : Feed} {n : ℕ} {pss pss' : Pss} {vhd vhd' : Vhd} {old new : List (List UInt8)}
    (h : Fed f n pss vhd old new) {payload : Payload} (hpayload : vhd.amsg.payload = some payload)
    (hlag : pss.last ≠ Int32.ofNat n) (hpss : pss'.last = Int32.ofNat n) :
    Fed ⟨f.received, f.sent ++ [payload.text]⟩ n pss' vhd' f.received [] := by
  have hne : new ≠ [] := by
    rintro rfl
    exact hlag h.last_eq
  have hnewest := h.pending_eq payload hpayload hne
  have hmem : payload.text ∈ new := List.mem_of_getLast? hnewest
  refine Fed.caughtUp (f := ⟨f.received, f.sent ++ [payload.text]⟩) ?_ ?_ hpss
  · dsimp only
    rw [h.received_eq]
    exact h.sent_sublist.append (List.singleton_sublist.mpr hmem)
  · dsimp only
    rw [List.getLast?_concat, h.received_eq, List.getLast?_append, hnewest]
    rfl

namespace Feeds

variable {tr : List Label} {s s' : System} {user : PssPtr} {wsi : Lws}

/-- A step that keeps no message, and concerns only the sessions of which it is shown. -/
theorem keep (h : Feeds tr s) {l : Label} (hstored : l.stored = none)
    (hcurrent : s'.vhd.current = s.vhd.current)
    (hfed : ∀ p ∈ s'.sessions, ∀ pss, s'.vhd.heap p.1 = some pss →
      ∃ old new, Fed (feedAfter p.1 (feed p.1 tr) l) (stored tr).length pss s'.vhd old new) :
    Feeds (tr ++ [l]) s' := by
  have hsame : stored (tr ++ [l]) = stored tr := by
    rw [stored_append, hstored]
    exact List.append_nil _
  refine ⟨?_, fun p hp pss hpss => ?_⟩
  · rw [hsame, hcurrent, h.current_eq]
  · rw [hsame, feed_append]
    exact hfed p hp pss hpss

theorem established (h : Feeds tr s) {vhd : Vhd} {requested : Lws → Bool}
    (hheap : vhd.heap =
      Function.update s.vhd.heap user (some ⟨s.vhd.head, some wsi, s.vhd.current⟩))
    (hamsg : vhd.amsg = s.vhd.amsg) (hcurrent : vhd.current = s.vhd.current) :
    Feeds (tr ++ [.established user wsi]) ⟨vhd, (user, wsi) :: s.sessions, requested⟩ := by
  refine h.keep rfl hcurrent fun p hp pss hpss => ?_
  dsimp only at hp hpss
  rw [hheap] at hpss
  unfold feedAfter
  dsimp only
  rcases eq_or_ne p.1 user with heq | hne
  · rw [heq, Function.update_self] at hpss
    obtain rfl := Option.some.inj hpss
    rw [if_pos heq.symm]
    exact ⟨_, _, Fed.caughtUp (List.Sublist.refl _) rfl h.current_eq⟩
  · rw [Function.update_of_ne hne] at hpss
    rw [if_neg hne.symm]
    have hmem : p ∈ s.sessions := by
      refine (List.mem_cons.mp hp).resolve_left ?_
      rintro rfl
      exact hne rfl
    obtain ⟨old, new, hfed⟩ := h.fed p hmem pss hpss
    exact ⟨old, new, hfed.congr rfl (by rw [hamsg])⟩

theorem closed (h : Feeds tr s) {vhd : Vhd} {l : Label} (hl : l.stored = none)
    (hfeed : ∀ user f, feedAfter user f l = f)
    (hrelinked : FwdList.Relinked pssList s.vhd.toCells vhd.toCells)
    (hamsg : vhd.amsg = s.vhd.amsg) (hcurrent : vhd.current = s.vhd.current)
    (p : PssPtr × Lws) : Feeds (tr ++ [l]) (dealloc { s with vhd } p) := by
  refine h.keep hl hcurrent fun q hq pss hpss => ?_
  unfold dealloc at hq hpss ⊢
  dsimp only at hq hpss ⊢
  have hne : q.1 ≠ p.1 := by
    intro heq
    rw [heq, Function.update_self] at hpss
    cases hpss
  rw [Function.update_of_ne hne] at hpss
  rw [hfeed]
  rcases hrelinked q.1 with hsame | ⟨before, next, hbefore, hnew⟩
  · obtain ⟨old, new, hfed⟩ := h.fed q (List.mem_of_mem_erase hq) pss (hsame.symm.trans hpss)
    exact ⟨old, new, hfed.congr rfl (by rw [hamsg])⟩
  · obtain rfl := Option.some.inj (hpss.symm.trans hnew)
    obtain ⟨old, new, hfed⟩ := h.fed q (List.mem_of_mem_erase hq) before hbefore
    exact ⟨old, new, hfed.congr rfl (by rw [hamsg])⟩

theorem idle (h : Feeds tr s) (user : PssPtr) (wsi : Lws) (requested : Lws → Bool) :
    Feeds (tr ++ [.serverWriteable user wsi true []]) { s with requested } := by
  refine h.keep rfl rfl fun p hp pss hpss => ?_
  have hsame : feedAfter p.1 (feed p.1 tr) (.serverWriteable user wsi true []) = feed p.1 tr := by
    unfold feedAfter
    dsimp only
    split_ifs
    · rw [List.filterMap_nil, List.append_nil]
    · rfl
  rw [hsame]
  exact h.fed p hp pss hpss

theorem written (h : Feeds tr s) {pss : Pss} (hpss : s.vhd.heap user = some pss)
    {payload : Payload} (hpayload : s.vhd.amsg.payload = some payload)
    (hlag : pss.last ≠ s.vhd.current) (requested : Lws → Bool) :
    Feeds (tr ++ [.serverWriteable user wsi true [.write wsi payload.ptr payload.text]])
      { s with
        vhd := { s.vhd with toCells := s.vhd.write user { pss with last := s.vhd.current } }
        requested } := by
  refine h.keep rfl rfl fun p hp new hnew => ?_
  unfold FwdList.Cells.write at hnew ⊢
  unfold feedAfter
  dsimp only at hnew ⊢
  rcases eq_or_ne p.1 user with heq | hne
  · rw [if_pos heq.symm]
    rw [heq, Function.update_self] at hnew
    obtain rfl := Option.some.inj hnew
    obtain ⟨old, new, hfed⟩ := h.fed p hp pss (by rw [heq, hpss])
    refine ⟨_, _, hfed.write hpayload ?_ h.current_eq⟩
    rw [← h.current_eq]
    exact hlag
  · rw [if_neg hne.symm]
    rw [Function.update_of_ne hne] at hnew
    obtain ⟨old, new', hfed⟩ := h.fed p hp new hnew
    exact ⟨old, new', hfed.congr rfl rfl⟩

/-- Nothing is allocated where a message is destroyed. -/
theorem any_isMalloc_destroy (amsg : Msg) :
    (minimalDestroyMessage amsg).2.any Call.isMalloc = false := by
  unfold minimalDestroyMessage
  cases amsg.payload <;> rfl

theorem dropped (h : Feeds tr s) (text : List UInt8) (requested : Lws → Bool) :
    Feeds (tr ++ [.receive text (minimalDestroyMessage s.vhd.amsg).2])
      { s with vhd := { s.vhd with amsg := ⟨none, text.length⟩ }, requested } := by
  have hstored : (Label.receive text (minimalDestroyMessage s.vhd.amsg).2).stored = none := by
    unfold Label.stored
    dsimp only
    rw [any_isMalloc_destroy]
    rfl
  refine h.keep hstored rfl fun p hp pss hpss => ?_
  unfold feedAfter
  dsimp only
  rw [hstored, Option.toList_none, List.append_nil]
  obtain ⟨old, new, hfed⟩ := h.fed p hp pss hpss
  refine ⟨old, new, hfed.received_eq, hfed.sent_sublist, hfed.getLast?_sent, hfed.length_le,
    hfed.last_eq, ?_⟩
  rintro payload ⟨⟩

theorem received (h : Feeds tr s) (text : List UInt8) (payload : Ptr) (requested : Lws → Bool)
    {calls : List Call} (hcalls : Call.malloc payload ∈ calls) :
    Feeds (tr ++ [.receive text calls])
      { s with
        vhd := { s.vhd with
          amsg := ⟨some ⟨payload, text⟩, text.length⟩
          current := s.vhd.current + 1 }
        requested } := by
  have hstored : (Label.receive text calls).stored = some text :=
    if_pos (List.any_eq_true.mpr ⟨_, hcalls, rfl⟩)
  have hlen : (stored (tr ++ [.receive text calls])).length = (stored tr).length + 1 := by
    rw [stored_append, hstored, List.length_append]
    rfl
  refine ⟨?_, fun p hp pss hpss => ?_⟩
  · rw [hlen, Int32.ofNat_add, ← h.current_eq]
    rfl
  · rw [hlen, feed_append]
    unfold feedAfter
    dsimp only
    rw [hstored]
    obtain ⟨old, new, hfed⟩ := h.fed p hp pss hpss
    exact ⟨old, _, hfed.store ⟨payload, text⟩ rfl⟩

theorem step (h : Feeds tr s) (hserved : Served s) {l : Label} (hs : Step s l s') :
    Feeds (tr ++ [l]) s' := by
  cases hs with
  | @established user wsi text ans vhd calls huser hwsi hok =>
    obtain ⟨vhd', hok', hheap, hamsg, hcurrent, -⟩ := hserved.established huser hwsi text ans
    cases hok.symm.trans hok'
    exact h.established hheap hamsg hcurrent
  | @closed user wsi text ans vhd calls hopen hok =>
    obtain ⟨vhd', hok', hamsg, hcurrent, hrelinked, -⟩ := hserved.closed hopen text ans
    cases hok.symm.trans hok'
    exact h.closed rfl (fun _ _ => rfl) hrelinked hamsg hcurrent _
  | @serverWriteable user wsi text ans vhd calls hopen hok =>
    obtain ⟨pss, hpss, ⟨-, hok'⟩ | ⟨payload, hpayload, hlag, hok' | hok'⟩⟩ :=
      hserved.serverWriteable hopen text ans
    · cases hok.symm.trans hok'
      exact h.idle user wsi _
    · cases hok.symm.trans hok'
    · cases hok.symm.trans hok'
      exact h.written hpss hpayload hlag _
  | @drop user wsi text ans vhd vhd' res calls calls' hopen hok hres hclosed =>
    obtain ⟨pss, hpss, ⟨-, hok'⟩ | ⟨payload, hpayload, hlag, hok' | hok'⟩⟩ :=
      hserved.serverWriteable hopen text ans
    · cases hok.symm.trans hok'
      exact absurd rfl hres
    · -- the short write changed nothing
      cases hok.symm.trans hok'
      obtain ⟨vhd₁, hok₁, hamsg, hcurrent, hrelinked, -⟩ := hserved.closed hopen text ans
      cases hclosed.symm.trans hok₁
      exact h.closed rfl (fun _ _ => rfl) hrelinked hamsg hcurrent _
    · cases hok.symm.trans hok'
      exact absurd rfl hres
  | @receive user wsi text ans vhd calls hopen hok =>
    obtain ⟨vhd', calls', hok', hcases, -⟩ := hserved.receive wsi user text ans
    cases hok.symm.trans hok'
    rcases hcases with ⟨-, rfl, rfl⟩ | ⟨payload, -, rfl, hcalls⟩
    · exact h.dropped text _
    · refine h.received text payload _ ?_
      rw [hcalls]
      simp

end Feeds

theorem feeds_of_run {tr : List Label} {s : System} (h : Run Step init tr s) : Feeds tr s := by
  refine h.invariant Feeds ⟨rfl, ?_⟩ fun _ _ _ _ hrun hI hs => hI.step (served_of_steps hrun) hs
  intro p hp
  cases hp

/-- **What a session is sent**: in every run an open session was sent messages that arrived since it
was established, in their order and none twice; and while a message is pending, as long as the
numbers of the messages have not overflowed, a session that is not waiting for its turn was sent the
newest of them. -/
theorem fed_of_run {tr : List Label} {s : System} (h : Run Step init tr s) :
    ∀ p ∈ s.sessions, (feed p.1 tr).sent.Sublist (feed p.1 tr).received ∧
      (s.requested p.2 = false → s.vhd.amsg.payload ≠ none → (stored tr).length < 2 ^ 31 →
        (feed p.1 tr).sent.getLast? = (feed p.1 tr).received.getLast?) := by
  intro p hp
  have hserved := served_of_steps h
  have hfeeds := feeds_of_run h
  obtain ⟨pss, hpss, -⟩ := hserved.wsi_eq p hp
  obtain ⟨old, new, hfed⟩ := hfeeds.fed p hp pss hpss
  refine ⟨?_, fun hrequested hpayload hlt => ?_⟩
  · rw [hfed.received_eq]
    exact hfed.sent_sublist.trans (List.sublist_append_left ..)
  · -- it is not waiting, so that it sent the current message
    have hlast : pss.last = s.vhd.current := by
      by_contra hlag
      have hwaits := hserved.requested p hp pss hpss hpayload hlag
      rw [hrequested] at hwaits
      cases hwaits
    rw [hfed.last_eq, hfeeds.current_eq] at hlast
    have hint := congrArg Int32.toInt hlast
    rw [Int32.toInt_ofNat_of_lt (by omega), Int32.toInt_ofNat_of_lt hlt] at hint
    have hle := hfed.length_le
    have hnew : new = [] := List.eq_nil_of_length_eq_zero (by omega)
    rw [hfed.received_eq, hfed.getLast?_sent, hnew, List.append_nil]

/-! ### The blocks of the messages -/

/-- The events of a run. -/
def events (tr : List Label) : List (Ledger.Event Ptr) :=
  tr.flatMap fun l => l.calls.flatMap Call.events

/-- The block of the pending message. -/
def liveBlocks (s : System) : List Ptr := s.vhd.amsg.payload.toList.map Payload.ptr

/-- The message is destroyed with its block. -/
theorem replay_destroy (amsg : Msg) :
    Ledger.replay (amsg.payload.toList.map Payload.ptr)
      ((minimalDestroyMessage amsg).2.flatMap Call.events) = some [] := by
  unfold minimalDestroyMessage
  cases amsg.payload with
  | none => rfl
  | some payload => simp [Call.events, Ledger.post]

/-- To ask for a session does not concern the blocks. -/
theorem events_wake (sessions : List (PssPtr × Lws)) :
    (sessions.map fun p => Call.onWritable (some p.2)).flatMap Call.events = [] := by
  rw [List.flatMap_eq_nil_iff]
  intro c hc
  obtain ⟨p, -, rfl⟩ := List.mem_map.mp hc
  rfl

/-- What a step does to the blocks. -/
theorem replay_of_step {s s' : System} {l : Label} (hserved : Served s) (hs : Step s l s') :
    Ledger.replay s.liveBlocks (l.calls.flatMap Call.events) = some s'.liveBlocks := by
  -- a step that makes no call
  have hquiet : ∀ s' : System, s'.vhd.amsg = s.vhd.amsg →
      Ledger.replay s.liveBlocks [] = some s'.liveBlocks := by
    intro s' hamsg
    rw [Ledger.replay_nil, liveBlocks, liveBlocks, hamsg]
  -- a write reads the block of the pending message
  have hwrite : ∀ (s' : System) (wsi : Lws) (payload : Payload), s'.vhd.amsg = s.vhd.amsg →
      s.vhd.amsg.payload = some payload →
      Ledger.replay s.liveBlocks ([Call.write wsi payload.ptr payload.text].flatMap Call.events) =
        some s'.liveBlocks := by
    intro s' wsi payload hamsg hpayload
    rw [liveBlocks, liveBlocks, hamsg, hpayload]
    simp [Call.events, Ledger.post]
  cases hs with
  | @established user wsi text ans vhd calls huser hwsi hok =>
    obtain ⟨vhd', hok', -, hamsg, -, -⟩ := hserved.established huser hwsi text ans
    cases hok.symm.trans hok'
    exact hquiet _ hamsg
  | @closed user wsi text ans vhd calls hopen hok =>
    obtain ⟨vhd', hok', hamsg, -, -, -⟩ := hserved.closed hopen text ans
    cases hok.symm.trans hok'
    exact hquiet _ hamsg
  | @serverWriteable user wsi text ans vhd calls hopen hok =>
    obtain ⟨pss, hpss, ⟨-, hok'⟩ | ⟨payload, hpayload, hlag, hok' | hok'⟩⟩ :=
      hserved.serverWriteable hopen text ans
    · cases hok.symm.trans hok'
      exact hquiet _ rfl
    · cases hok.symm.trans hok'
    · cases hok.symm.trans hok'
      exact hwrite _ wsi payload rfl hpayload
  | @drop user wsi text ans vhd vhd' res calls calls' hopen hok hres hclosed =>
    obtain ⟨pss, hpss, ⟨-, hok'⟩ | ⟨payload, hpayload, hlag, hok' | hok'⟩⟩ :=
      hserved.serverWriteable hopen text ans
    · cases hok.symm.trans hok'
      exact absurd rfl hres
    · cases hok.symm.trans hok'
      obtain ⟨vhd₁, hok₁, hamsg, -, -, -⟩ := hserved.closed hopen text ans
      cases hclosed.symm.trans hok₁
      exact hwrite _ wsi payload hamsg hpayload
    · cases hok.symm.trans hok'
      exact absurd rfl hres
  | @receive user wsi text ans vhd calls hopen hok =>
    obtain ⟨vhd', calls', hok', hcases, -⟩ := hserved.receive wsi user text ans
    cases hok.symm.trans hok'
    rcases hcases with ⟨-, rfl, rfl⟩ | ⟨payload, -, rfl, rfl⟩
    · exact replay_destroy s.vhd.amsg
    · unfold Label.calls
      dsimp only
      rw [List.flatMap_append, List.flatMap_append, events_wake, List.append_nil,
        Ledger.replay_append, liveBlocks, replay_destroy]
      rfl

/-- **The blocks of the messages**: in every run a block is freed once and read only before that,
and the block of the pending message is the only one that is held. -/
theorem replay_of_run {tr : List Label} {s : System} (h : Run Step init tr s) :
    Ledger.replay [] (events tr) = some s.liveBlocks := by
  refine h.invariant (fun tr s => Ledger.replay [] (events tr) = some s.liveBlocks) rfl ?_
  intro tr s l s' hrun hinv hs
  unfold events at hinv ⊢
  rw [List.flatMap_append, List.flatMap_singleton, Ledger.replay_append, hinv]
  exact replay_of_step (served_of_steps hrun) hs

/-! ### Two sessions -/

/-- A session that was there before the message, one that came after it, and the write. -/
def twoSessions : List Label :=
  [.established 64 1, .receive [104, 105] [.malloc 4096, .onWritable (some 1)], .established 96 2,
    .serverWriteable 64 1 true [.write 1 4096 [104, 105]]]

theorem run_twoSessions : ∃ s, Run Step init twoSessions s ∧
    s.sessions = [(96, 2), (64, 1)] ∧ s.requested 1 = false ∧ s.vhd.amsg.payload ≠ none ∧
      s.vhd.heap 128 = none := by
  have hfirst := Run.nil.snoc
    (@Step.established init 64 1 [] ⟨0, none⟩ _ _ rfl (by simp [init]) rfl)
  have hreceive := hfirst.snoc
    (@Step.receive _ 64 1 [104, 105] ⟨0, some 4096⟩ _ _ (List.mem_singleton.mpr rfl) rfl)
  have hsecond := hreceive.snoc (@Step.established _ 96 2 [] ⟨0, none⟩ _ _ rfl (by simp [init]) rfl)
  have hwrite := hsecond.snoc
    (@Step.serverWriteable _ 64 1 [] ⟨2, none⟩ _ _ (List.mem_cons_of_mem _ (List.mem_cons_self ..))
      rfl)
  exact ⟨_, hwrite, rfl, rfl, Option.some_ne_none _, rfl⟩

/-- In this run both sessions are on the list, and a third one may come. -/
theorem served_twoSessions : ∃ s, Run Step init twoSessions s ∧ Served s ∧
    ((s.alloc 128).callback 3 .established 128 [] ⟨0, none⟩).IsOk ∧
    (s.callback 1 .closed 64 [] ⟨0, none⟩).IsOk := by
  obtain ⟨s, hrun, hsessions, -, -, hfree⟩ := run_twoSessions
  obtain ⟨hserved, hestablished, hcalls⟩ := served_of_run hrun
  refine ⟨s, hrun, hserved, hestablished 128 3 [] ⟨0, none⟩ hfree ?_, ?_⟩
  · rw [hsessions]
    decide
  · exact (hcalls (64, 1) (by rw [hsessions]; decide) [] ⟨0, none⟩).1

/-- The first session was sent the message, the second one came too late for it. -/
theorem fed_twoSessions : ∃ s, Run Step init twoSessions s ∧
    feed 64 twoSessions = ⟨[[104, 105]], [[104, 105]]⟩ ∧ feed 96 twoSessions = ⟨[], []⟩ ∧
    (feed 64 twoSessions).sent.getLast? = (feed 64 twoSessions).received.getLast? := by
  obtain ⟨s, hrun, hsessions, hrequested, hpayload, -⟩ := run_twoSessions
  have hfed := fed_of_run hrun (64, 1) (by rw [hsessions]; decide)
  exact ⟨s, hrun, by decide, by decide, hfed.2 hrequested hpayload (by decide)⟩

/-- The block of the message is held, and nothing else. -/
theorem replay_twoSessions : ∃ s, Run Step init twoSessions s ∧
    Ledger.replay [] (events twoSessions) = some s.liveBlocks ∧ events twoSessions =
      [.acquire 4096, .use 4096] := by
  obtain ⟨s, hrun, -⟩ := run_twoSessions
  exact ⟨s, hrun, replay_of_run hrun, rfl⟩

end System

end Mvr.LwsMinimal
