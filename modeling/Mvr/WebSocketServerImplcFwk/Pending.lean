import Mvr.WebSocketServerImplcFwk.Equiv

/-!
# The pending counts of the clients

`pending` is the count the server keeps for a connection.  Each operation has one lemma that says
what it does to the counts: a report sets one (`Linked.pending_onCliRead`), `pushData` clears those
of all but the two newest clients, when there are more than ten (`Linked.pending_pushData`).

The frame goes to the two newest clients in any case.  So with three to ten clients the others get
no frames, but keep their counts, and the maximum is taken over them too
(`pushData_unthrottled_iff`).
-/

namespace Mvr.WebSocketServerImplcFwk

/-- The count kept for a connection. -/
def pending (s : WebSocketServerImplcFwk) (cli : CfWebsocket) : Option UInt32 :=
  (s.userData cli).bind fun vCli => (s.memory vCli).map VideoCli.pendingH264

section Counts

variable {s s' : WebSocketServerImplcFwk} {cli : CfWebsocket} {vCli : VideoCliPtr}

theorem pending_of_userData (h : s.userData cli = some vCli) :
    s.pending cli = (s.memory vCli).map VideoCli.pendingH264 := by
  rw [pending, h]
  rfl

/-- What a message does: one that is not a report changes nothing, a report sets the count of its
sender, and the callback, if it is called, gets the number that is recorded. -/
theorem onCliRead_cases {json : CfJson} {called : Option UInt32}
    (huser : s.userData cli = some vCli) (h : s.onCliRead cli json = .ok (s', called)) :
    ((∀ n, json.getInt "pendingH264pkg" ≠ .ok n) ∧ s' = s ∧ called = none) ∨
    ∃ n s₁, json.getInt "pendingH264pkg" = .ok n ∧ s.setPending vCli n.toUInt32 = .ok s₁ ∧
      s'.memory = s₁.memory ∧ s'.userData = s.userData ∧
      (called = none ∧ s'.mMaxPending = s.mMaxPending ∨ called = some s'.mMaxPending) := by
  unfold onCliRead at h
  rw [huser] at h
  obtain ⟨-, -, h⟩ := Checked.bind_eq_ok.mp h
  split_ifs at h with hjson
  · obtain ⟨n, hn, h⟩ := Checked.bind_eq_ok.mp h
    obtain ⟨s₁, hset, h⟩ := Checked.bind_eq_ok.mp h
    have huser₁ : s₁.userData = s.userData := (sameLinks_setPending hset).userData_eq
    have hmax₁ : s₁.mMaxPending = s.mMaxPending := by
      obtain ⟨v, -, rfl⟩ := setPending_eq_ok_iff.mp hset
      rfl
    refine Or.inr ⟨n, s₁, hn, hset, ?_⟩
    split_ifs at h with hcall
    · obtain ⟨max, -, h⟩ := Checked.bind_eq_ok.mp h
      split_ifs at h with hmax
      · obtain ⟨rfl, rfl⟩ := Prod.mk.inj (Except.ok.inj h)
        exact ⟨rfl, huser₁, Or.inr rfl⟩
      · obtain ⟨rfl, rfl⟩ := Prod.mk.inj (Except.ok.inj h)
        exact ⟨rfl, huser₁, Or.inl ⟨rfl, hmax₁⟩⟩
    · obtain ⟨rfl, rfl⟩ := Prod.mk.inj (Except.ok.inj h)
      exact ⟨rfl, huser₁, Or.inl ⟨rfl, hmax₁⟩⟩
  · obtain ⟨rfl, rfl⟩ := Prod.mk.inj (Except.ok.inj h)
    refine Or.inl ⟨fun n hn => ?_, rfl, rfl⟩
    exact hjson (CfJson.contains_of_getInt hn)

/-- The loop that clears the counts of a list of clients. -/
theorem memory_resetLoop {l : List VideoCliPtr}
    (h : l.foldlM (fun s vWs => s.setPending vWs 0) s = .ok s') (p : VideoCliPtr) :
    s'.memory p = if p ∈ l then (s.memory p).map fun v => { v with pendingH264 := 0 }
      else s.memory p := by
  induction l generalizing s with
  | nil =>
    obtain rfl := Except.ok.inj h
    simp
  | cons q l ih =>
    rw [List.foldlM_cons] at h
    obtain ⟨s₁, hset, h⟩ := Checked.bind_eq_ok.mp h
    obtain ⟨v, hv, rfl⟩ := setPending_eq_ok_iff.mp hset
    rw [ih h]
    dsimp only
    rcases eq_or_ne p q with rfl | hp
    · -- the client cleared now is 0, whether it comes again or not
      rw [Function.update_self, if_pos (List.mem_cons_self ..), hv]
      split_ifs <;> rfl
    · rw [Function.update_of_ne hp]
      simp only [List.mem_cons, hp, false_or]

/-- `pushData` leaves the recorded maximum alone. -/
theorem mMaxPending_pushData {buff : List UInt8} {writes : List (CfWebsocket × List UInt8)}
    (h : s.pushData buff = .ok (s', writes)) : s'.mMaxPending = s.mMaxPending := by
  have hloop : ∀ (l : List VideoCliPtr) (s s' : WebSocketServerImplcFwk),
      l.foldlM (fun s vWs => s.setPending vWs 0) s = .ok s' →
        s'.mMaxPending = s.mMaxPending := fun l => by
    induction l with
    | nil =>
      intro s s' h
      rw [← Except.ok.inj h]
    | cons p l ih =>
      intro s s' h
      rw [List.foldlM_cons] at h
      obtain ⟨s₁, hset, h⟩ := Checked.bind_eq_ok.mp h
      obtain ⟨v, -, rfl⟩ := setPending_eq_ok_iff.mp hset
      have hrest := ih _ _ h
      exact hrest
  rw [pushData_eq] at h
  obtain ⟨s₁, hreset, h⟩ := Checked.bind_eq_ok.mp h
  obtain ⟨writes', -, h⟩ := Checked.bind_eq_ok.mp h
  obtain ⟨rfl, -⟩ := Prod.mk.inj (Except.ok.inj h)
  unfold resetOlder at hreset
  split_ifs at hreset
  · exact hloop _ _ _ hreset
  · rw [← Except.ok.inj hreset]

end Counts

namespace Linked

variable {s : Session}

/-- Every open connection has a count. -/
theorem exists_pending (h : Linked s) {cli : CfWebsocket} (hcli : cli ∈ s.connections) :
    ∃ n, s.server.pending cli = some n := by
  obtain ⟨vCli, huser, hws⟩ := h.wsOf_userData cli hcli
  obtain ⟨v, hv, -⟩ := wsOf_eq_some_iff.mp hws
  exact ⟨v.pendingH264, by rw [pending_of_userData huser, hv]; rfl⟩

/-- A report sets the count of its sender. -/
theorem pending_setPending (h : Linked s) {server : WebSocketServerImplcFwk} {cli : CfWebsocket}
    {vCli : VideoCliPtr} {n : UInt32} (hcli : cli ∈ s.connections)
    (huser : s.server.userData cli = some vCli) (hset : s.server.setPending vCli n = .ok server)
    {c : CfWebsocket} (hc : c ∈ s.connections) :
    server.pending c = if c = cli then some n else s.server.pending c := by
  obtain ⟨v, hv, rfl⟩ := setPending_eq_ok_iff.mp hset
  obtain ⟨p, huser', -⟩ := h.wsOf_userData c hc
  unfold pending
  dsimp only
  split_ifs with heq
  · subst heq
    rw [huser, Option.bind_some, Function.update_self]
    rfl
  · -- another connection has another object
    have hp : p ≠ vCli := by
      rintro rfl
      exact heq (h.userData_inj hc hcli (huser'.trans huser.symm))
    rw [huser', Option.bind_some, Option.bind_some, Function.update_of_ne hp]

/-- The counts after a message that is a report. -/
theorem pending_onCliRead (h : Linked s) {server : WebSocketServerImplcFwk} {cli : CfWebsocket}
    {json : CfJson} {called : Option UInt32} {n : Int32} (hcli : cli ∈ s.connections)
    (hread : s.server.onCliRead cli json = .ok (server, called))
    (hjson : json.getInt "pendingH264pkg" = .ok n) {c : CfWebsocket} (hc : c ∈ s.connections) :
    server.pending c = if c = cli then some n.toUInt32 else s.server.pending c := by
  obtain ⟨vCli, huser, -⟩ := h.wsOf_userData cli hcli
  rcases onCliRead_cases huser hread with
    ⟨hnot, -, -⟩ | ⟨n', s₁, hn', hset, hmemory, huserData, -⟩
  · exact absurd hjson (hnot n)
  · obtain rfl : n' = n := Except.ok.inj (hn'.symm.trans hjson)
    have huser₁ : s₁.userData = s.server.userData := (sameLinks_setPending hset).userData_eq
    rw [← h.pending_setPending hcli huser hset hc]
    unfold pending
    rw [hmemory, huserData, huser₁]

/-- `pushData` clears the counts of the clients behind the two newest, when there are more than
ten. -/
theorem pending_pushData (h : Linked s) {buff : List UInt8} {server : WebSocketServerImplcFwk}
    {writes : List (CfWebsocket × List UInt8)}
    (hpush : s.server.pushData buff = .ok (server, writes)) {c : CfWebsocket}
    (hc : c ∈ s.connections) :
    server.pending c =
      if 10 < s.connections.length ∧ c ∈ s.connections.reverse.drop 2 then some 0
      else s.server.pending c := by
  rw [pushData_eq] at hpush
  obtain ⟨server', hreset, hpush⟩ := Checked.bind_eq_ok.mp hpush
  obtain ⟨writes', -, hpush⟩ := Checked.bind_eq_ok.mp hpush
  obtain ⟨rfl, -⟩ := Prod.mk.inj (Except.ok.inj hpush)
  have hlen : s.server.cliList.length = s.connections.length := by
    have hmap := congrArg List.length h.cliList_eq
    rwa [List.length_map, List.length_map] at hmap
  obtain ⟨p, huser, hws⟩ := h.wsOf_userData c hc
  obtain ⟨v, hv, -⟩ := wsOf_eq_some_iff.mp hws
  unfold resetOlder at hreset
  rw [hlen] at hreset
  split_ifs at hreset with hmany
  · -- the pointers that are cleared are those of the older connections
    have holder : (s.server.cliList.reverse.drop 2).map some =
        (s.connections.reverse.drop 2).map s.server.userData := by
      rw [List.map_drop, List.map_reverse, h.cliList_eq, ← List.map_reverse, ← List.map_drop]
    have hmem : p ∈ s.server.cliList.reverse.drop 2 ↔ c ∈ s.connections.reverse.drop 2 := by
      constructor
      · intro hp
        have hp' := List.mem_map_of_mem (f := some) hp
        rw [holder, List.mem_map] at hp'
        obtain ⟨c', hc', heq⟩ := hp'
        have hopen : c' ∈ s.connections := List.mem_reverse.mp (List.mem_of_mem_drop hc')
        rwa [← h.userData_inj hopen hc (heq.trans huser.symm)]
      · intro hc'
        have hc'' := List.mem_map_of_mem (f := s.server.userData) hc'
        rw [← holder, huser, List.mem_map] at hc''
        obtain ⟨p', hp', heq⟩ := hc''
        rwa [← Option.some.inj heq]
    obtain ⟨server, hloop, hlinks⟩ := resetLoop_eq_ok (s := s.server)
      (l := s.server.cliList.reverse.drop 2) fun q hq =>
        h.wsOf_of_mem (List.mem_reverse.mp (List.mem_of_mem_drop hq))
    rw [hloop] at hreset
    obtain rfl := Except.ok.inj hreset
    rw [pending_of_userData ((congrFun hlinks.userData_eq c).trans huser),
      memory_resetLoop hloop, pending_of_userData huser, hv]
    by_cases hold : c ∈ s.connections.reverse.drop 2
    · rw [if_pos (hmem.mpr hold), if_pos ⟨hmany, hold⟩]
      rfl
    · rw [if_neg fun hp => hold (hmem.mp hp), if_neg fun hp => hold hp.2]
  · obtain rfl := Except.ok.inj hreset
    rw [if_neg fun hnot => hmany hnot.1]

/-- The maximum is the greatest count of an open connection. -/
theorem isMaxPending_iff (h : Linked s) {max : UInt32} :
    s.server.IsMaxPending max ↔
      (∃ c ∈ s.connections, s.server.pending c = some max) ∧
        ∀ c ∈ s.connections, ∀ n, s.server.pending c = some n → n ≤ max := by
  -- the pointers of the list are those of the connections
  have hmem : ∀ p, p ∈ s.server.cliList ↔
      ∃ c ∈ s.connections, s.server.userData c = some p := fun p => by
    rw [← List.mem_map_of_injective (Option.some_injective _), h.cliList_eq, List.mem_map]
  have hpending : ∀ c p n, s.server.userData c = some p →
      (s.server.pending c = some n ↔ ∃ v, s.server.memory p = some v ∧ v.pendingH264 = n) :=
    fun c p n huser => by rw [pending_of_userData huser, Option.map_eq_some_iff]
  unfold IsMaxPending
  constructor
  · rintro ⟨⟨p, hp, hmax⟩, hle⟩
    obtain ⟨c, hc, huser⟩ := (hmem p).mp hp
    refine ⟨⟨c, hc, (hpending c p max huser).mpr hmax⟩, fun c' hc' n hn => ?_⟩
    obtain ⟨p', huser', -⟩ := h.wsOf_userData c' hc'
    obtain ⟨v, hv, rfl⟩ := (hpending c' p' n huser').mp hn
    exact hle p' ((hmem p').mpr ⟨c', hc', huser'⟩) v hv
  · rintro ⟨⟨c, hc, hmax⟩, hle⟩
    obtain ⟨p, huser, -⟩ := h.wsOf_userData c hc
    refine ⟨⟨p, (hmem p).mpr ⟨c, hc, huser⟩, (hpending c p max huser).mp hmax⟩,
      fun p' hp' v hv => ?_⟩
    obtain ⟨c', hc', huser'⟩ := (hmem p').mp hp'
    exact hle c' hc' _ ((hpending c' p' _ huser').mpr ⟨v, hv, rfl⟩)

end Linked

/-! ### Clients without frames -/

/-- The clients the frame was not written to do not count: the maximum is that of the others. -/
structure Unthrottled (s : Session) (server : WebSocketServerImplcFwk)
    (receivers : List CfWebsocket) : Prop where
  pending_eq : ∀ c ∈ s.connections, c ∉ receivers → server.pending c = some 0
  maxPending_eq : s.connections ≠ [] → ∃ max, server.maxPending = .ok max ∧
    (∃ c ∈ receivers, server.pending c = some max) ∧
    ∀ c ∈ receivers, ∀ n, server.pending c = some n → n ≤ max

/-- When the others count nothing, the maximum is that of the two newest clients. -/
theorem Linked.unthrottled {s : Session} (h : Linked s) {server : WebSocketServerImplcFwk}
    (hlinks : SameLinks s.server server)
    (hzero : ∀ c ∈ s.connections, c ∉ s.connections.reverse.take 2 → server.pending c = some 0) :
    Unthrottled s server (s.connections.reverse.take 2) := by
  refine ⟨hzero, fun hne => ?_⟩
  have h' : Linked ⟨server, s.connections⟩ := h.congr hlinks
  obtain ⟨max, hmax, hgreatest⟩ := h'.maxPending_eq_ok hne
  obtain ⟨⟨c, hc, hcmax⟩, hle⟩ := h'.isMaxPending_iff.mp hgreatest
  have hopen : ∀ r ∈ s.connections.reverse.take 2, r ∈ s.connections := fun r hr =>
    List.mem_reverse.mp (List.mem_of_mem_take hr)
  refine ⟨max, hmax, ?_, fun r hr => hle r (hopen r hr)⟩
  by_cases hreceives : c ∈ s.connections.reverse.take 2
  · exact ⟨c, hreceives, hcmax⟩
  · -- the maximum is the 0 of a client without frames, so all counts are 0
    have hmax0 : max = 0 := by
      rw [hzero c hc hreceives] at hcmax
      exact (Option.some.inj hcmax).symm
    obtain ⟨r, hr⟩ := List.exists_mem_of_ne_nil (s.connections.reverse.take 2) (by simpa using hne)
    obtain ⟨n, hn⟩ := h'.exists_pending (hopen r hr)
    have hn0 : n = max := by
      have hnle := hle r (hopen r hr) n hn
      rw [hmax0, UInt32.le_iff_toNat_le] at hnle
      rw [hmax0, ← UInt32.toNat_inj]
      exact Nat.le_zero.mp hnle
    exact ⟨r, hr, hn0 ▸ hn⟩

/-- **Clients without frames**: after any run `pushData` leaves the maximum to the clients it wrote
to exactly when there are more than ten clients, or the ones behind the two newest counted nothing
before. -/
theorem pushData_unthrottled_iff (residue : UInt32) (tr : List Event) (s : Session)
    (h : Run Step (.new residue) tr s) (buff : List UInt8) :
    ∃ server writes, s.server.pushData buff = .ok (server, writes) ∧
      (Unthrottled s server (writes.map Prod.fst) ↔ 10 < s.connections.length ∨
        ∀ c ∈ s.connections.reverse.drop 2, s.server.pending c = some 0) := by
  have hlinked := linked_of_run h
  obtain ⟨server, hpush, hlinks⟩ := hlinked.pushData_eq_ok buff
  have hreceivers : ((s.connections.reverse.take 2).map fun cli => (cli, buff)).map Prod.fst =
      s.connections.reverse.take 2 := by
    rw [List.map_map]
    exact List.map_id _
  -- the open connections are those that get the frame and those that do not
  have hsplit : ∀ c, c ∈ s.connections ↔
      c ∈ s.connections.reverse.take 2 ∨ c ∈ s.connections.reverse.drop 2 := fun c => by
    rw [← List.mem_append, List.take_append_drop, List.mem_reverse]
  have hdisjoint : ∀ c ∈ s.connections.reverse.drop 2, c ∉ s.connections.reverse.take 2 := by
    have hnodup : (s.connections.reverse.take 2 ++ s.connections.reverse.drop 2).Nodup := by
      rw [List.take_append_drop]
      exact List.nodup_reverse.mpr hlinked.nodup
    intro c hdrop htake
    exact (List.nodup_append.mp hnodup).2.2 c htake c hdrop rfl
  refine ⟨server, _, hpush, ?_⟩
  rw [hreceivers]
  constructor
  · intro hun
    by_cases hmany : 10 < s.connections.length
    · exact Or.inl hmany
    · -- nothing was cleared, so what counts nothing now counted nothing before
      refine Or.inr fun c hc => ?_
      have hopen := (hsplit c).mpr (Or.inr hc)
      have hzero := hun.pending_eq c hopen (hdisjoint c hc)
      rwa [hlinked.pending_pushData hpush hopen, if_neg fun hnot => hmany hnot.1] at hzero
  · intro hcond
    refine hlinked.unthrottled hlinks fun c hc hnot => ?_
    have hold := ((hsplit c).mp hc).resolve_left hnot
    rw [hlinked.pending_pushData hpush hc]
    split_ifs with hclear
    · rfl
    · exact hcond.resolve_left (fun hmany => hclear ⟨hmany, hold⟩) c hold

/-- Three clients, of which the oldest has nine packets left. -/
def threeClients : Session :=
  ⟨(((new 7).onNewWebsocket 1 101 0).onNewWebsocket 2 102 0).onNewWebsocket 3 103 0, [1, 2, 3]⟩

/-- The report of nine packets. -/
def ninePackets : CfJson := .object [("pendingH264pkg", .int 9)]

theorem run_threeClients :
    Run Step (.new 7) [.connect 1, .connect 2, .connect 3] threeClients := by
  have h1 : Step (.new 7) (.connect 1) ⟨(new 7).onNewWebsocket 1 101 0, [1]⟩ :=
    .connect 0 (by decide) rfl
  have h2 : Step ⟨(new 7).onNewWebsocket 1 101 0, [1]⟩ (.connect 2)
      ⟨((new 7).onNewWebsocket 1 101 0).onNewWebsocket 2 102 0, [1, 2]⟩ :=
    .connect 0 (by simp) rfl
  exact ((Run.nil.snoc h1).snoc h2).snoc (.connect 0 (by simp) rfl)

theorem run_threeClients_ninePackets :
    ∃ server, Run Step (.new 7) [.connect 1, .connect 2, .connect 3, .read 1 ninePackets none]
        ⟨server, [1, 2, 3]⟩ ∧
      threeClients.server.onCliRead 1 ninePackets = .ok (server, none) := by
  have hmem : (1 : CfWebsocket) ∈ threeClients.connections := List.mem_cons_self ..
  exact ⟨_, run_threeClients.snoc (.read hmem rfl), rfl⟩

theorem pushData_unthrottled_threeClients :
    ∃ server writes, threeClients.server.pushData [0, 1] = .ok (server, writes) ∧
      (Unthrottled threeClients server (writes.map Prod.fst) ↔
        10 < threeClients.connections.length ∨
          ∀ c ∈ threeClients.connections.reverse.drop 2,
            threeClients.server.pending c = some 0) :=
  pushData_unthrottled_iff 7 _ threeClients run_threeClients [0, 1]

/-- The oldest of three clients keeps its nine packets, though the frame is not written to it, and
they are the maximum. -/
theorem pushData_keeps_ninePackets :
    ∃ s, Run Step (.new 7)
        [.connect 1, .connect 2, .connect 3, .read 1 ninePackets none] s ∧
      ∃ server, s.server.pushData [0, 1] = .ok (server, [(3, [0, 1]), (2, [0, 1])]) ∧
        1 ∈ s.connections ∧ server.pending 1 = some 9 ∧ server.maxPending = .ok 9 := by
  obtain ⟨server, hrun, hread⟩ := run_threeClients_ninePackets
  obtain rfl : _ = server := congrArg Prod.fst (Except.ok.inj hread)
  exact ⟨_, hrun, _, rfl, List.mem_cons_self .., rfl, rfl⟩

end Mvr.WebSocketServerImplcFwk
