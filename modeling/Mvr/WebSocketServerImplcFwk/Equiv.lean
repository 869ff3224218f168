import Mvr.WebSocketServerImplcFwk.Basic
import Mvr.Lts.Basic
import Mathlib.Data.List.Forall2

/-!
# The clients of the websocket server

`Linked` ties the three views of a client together: the connection the library has open, the pointer
it keeps as user data, and the object in memory that names the connection.  It holds in every run
(`linked_of_run`), and makes `cli_list` the list of the open connections (`map_wsOf_cliList`).  No
pointer dangles then, and `pushData` writes to the two newest connections (`pushData_eq_ok`).

Reports and resets only change pending counts; `SameLinks` is their frame condition.
-/

namespace Mvr.WebSocketServerImplcFwk

/-- The connection that the object behind a pointer names. -/
def wsOf (s : WebSocketServerImplcFwk) (vCli : VideoCliPtr) : Option CfWebsocket :=
  (s.memory vCli).map VideoCli.ws

/-- The connections that are open after the events, in the order in which they were opened. -/
def openConnections (tr : List Event) : List CfWebsocket :=
  tr.foldl (fun clis e => match e with
    | .connect cli => clis ++ [cli]
    | .disconnect cli => clis.filter fun c => c ≠ cli
    | _ => clis) []

/-! ### Pending counts aside -/

/-- The two servers differ in pending counts only. -/
structure SameLinks (s s' : WebSocketServerImplcFwk) : Prop where
  onMaxPendingChanged_eq : s'.onMaxPendingChanged = s.onMaxPendingChanged
  cliList_eq : s'.cliList = s.cliList
  userData_eq : s'.userData = s.userData
  wsOf_eq : ∀ vCli, s'.wsOf vCli = s.wsOf vCli

namespace SameLinks

variable {s s' s'' : WebSocketServerImplcFwk}

theorem refl (s : WebSocketServerImplcFwk) : SameLinks s s := ⟨rfl, rfl, rfl, fun _ => rfl⟩

theorem trans (h : SameLinks s s') (h' : SameLinks s' s'') : SameLinks s s'' where
  onMaxPendingChanged_eq := h'.onMaxPendingChanged_eq.trans h.onMaxPendingChanged_eq
  cliList_eq := h'.cliList_eq.trans h.cliList_eq
  userData_eq := h'.userData_eq.trans h.userData_eq
  wsOf_eq vCli := (h'.wsOf_eq vCli).trans (h.wsOf_eq vCli)

end SameLinks

/-! ### Parts of `pushData` -/

/-- The reset of all but the two newest clients. -/
def resetOlder (s : WebSocketServerImplcFwk) : Checked WebSocketServerImplcFwk :=
  if s.cliList.length > 10 then
    (s.cliList.reverse.drop 2).foldlM (fun s vWs => s.setPending vWs 0) s
  else
    pure s

/-- The writes to the newest clients. -/
def writeNewest (s : WebSocketServerImplcFwk) (buff : List UInt8) :
    Checked (List (CfWebsocket × List UInt8)) :=
  (if s.cliList.length > 2 then s.cliList.reverse.take 2 else s.cliList.reverse).mapM fun vWs => do
    let cli ← s.deref vWs
    pure (cli.ws, buff)

theorem pushData_eq (s : WebSocketServerImplcFwk) (buff : List UInt8) :
    s.pushData buff = (do
      let s ← s.resetOlder
      let writes ← s.writeNewest buff
      pure (s, writes)) := by
  unfold pushData resetOlder
  split_ifs <;> rfl

section Memory

variable {s s' : WebSocketServerImplcFwk}

theorem deref_eq_ok_iff {vCli : VideoCliPtr} {cli : VideoCli} :
    s.deref vCli = .ok cli ↔ s.memory vCli = some cli := by
  unfold deref
  cases s.memory vCli with
  | none => simp
  | some cli' => simp

/-- The server after a new count. -/
theorem setPending_eq_ok_iff {vCli : VideoCliPtr} {n : UInt32} :
    s.setPending vCli n = .ok s' ↔ ∃ cli, s.memory vCli = some cli ∧
      s' = { s with
        memory := Function.update s.memory vCli (some { cli with pendingH264 := n }) } := by
  rw [setPending, Checked.bind_eq_ok]
  refine exists_congr fun cli => and_congr deref_eq_ok_iff ?_
  exact ⟨fun h => (Except.ok.inj h).symm, fun h => congrArg Except.ok h.symm⟩

theorem wsOf_eq_some_iff {vCli : VideoCliPtr} {ws : CfWebsocket} :
    s.wsOf vCli = some ws ↔ ∃ cli, s.memory vCli = some cli ∧ cli.ws = ws :=
  Option.map_eq_some_iff

/-- A new count leaves the links alone. -/
theorem sameLinks_setPending {vCli : VideoCliPtr} {n : UInt32}
    (h : s.setPending vCli n = .ok s') : SameLinks s s' := by
  obtain ⟨cli, hcli, rfl⟩ := setPending_eq_ok_iff.mp h
  refine ⟨rfl, rfl, rfl, fun p => ?_⟩
  unfold wsOf
  dsimp only
  rcases eq_or_ne p vCli with rfl | hp
  · rw [Function.update_self, hcli]
    rfl
  · rw [Function.update_of_ne hp]

/-- The loop that clears the counts of live clients returns, and leaves the links alone. -/
theorem resetLoop_eq_ok {l : List VideoCliPtr} (h : ∀ p ∈ l, ∃ ws, s.wsOf p = some ws) :
    ∃ s', l.foldlM (fun s vWs => s.setPending vWs 0) s = .ok s' ∧ SameLinks s s' := by
  induction l generalizing s with
  | nil => exact ⟨s, rfl, .refl s⟩
  | cons p l ih =>
    obtain ⟨⟨ws, hws⟩, hrest⟩ := List.forall_mem_cons.mp h
    obtain ⟨cli, hcli, -⟩ := wsOf_eq_some_iff.mp hws
    obtain ⟨s₁, hset⟩ : ∃ s₁, s.setPending p 0 = .ok s₁ :=
      ⟨_, setPending_eq_ok_iff.mpr ⟨cli, hcli, rfl⟩⟩
    -- the clients that are left are as live as before the write
    have hlinks := sameLinks_setPending hset
    obtain ⟨s', hloop, hlinks'⟩ := ih fun q hq => by
      obtain ⟨ws', hws'⟩ := hrest q hq
      exact ⟨ws', (hlinks.wsOf_eq q).trans hws'⟩
    refine ⟨s', ?_, hlinks.trans hlinks'⟩
    rw [List.foldlM_cons, hset, Checked.ok_bind]
    exact hloop

/-- One round of `std::max_element`. -/
def largerOf (s : WebSocketServerImplcFwk) (largest vCli : VideoCliPtr) :
    Checked VideoCliPtr := do
  let c1 ← s.deref largest
  let c2 ← s.deref vCli
  pure (if c1.pendingH264 < c2.pendingH264 then vCli else largest)

/-- The count is the greatest one of a client. -/
def IsMaxPending (s : WebSocketServerImplcFwk) (max : UInt32) : Prop :=
  (∃ p ∈ s.cliList, ∃ v, s.memory p = some v ∧ v.pendingH264 = max) ∧
    ∀ p ∈ s.cliList, ∀ v, s.memory p = some v → v.pendingH264 ≤ max

/-- Over live objects `std::max_element` finds a greatest one. -/
theorem maxLoop_eq_ok {first : VideoCliPtr} {rest : List VideoCliPtr}
    (h : ∀ p ∈ first :: rest, ∃ v, s.memory p = some v) :
    ∃ largest v, rest.foldlM s.largerOf first = .ok largest ∧ largest ∈ first :: rest ∧
      s.memory largest = some v ∧
      ∀ p ∈ first :: rest, ∀ w, s.memory p = some w → w.pendingH264 ≤ v.pendingH264 := by
  induction rest generalizing first with
  | nil =>
    obtain ⟨v, hv⟩ := h first (List.mem_cons_self ..)
    refine ⟨first, v, rfl, List.mem_cons_self .., hv, fun p hp w hw => ?_⟩
    obtain rfl := List.mem_singleton.mp hp
    rw [hv] at hw
    rw [Option.some.inj hw]
    exact UInt32.le_refl _
  | cons p rest ih =>
    obtain ⟨c1, hc1⟩ := h first (List.mem_cons_self ..)
    obtain ⟨c2, hc2⟩ := h p (List.mem_cons_of_mem _ (List.mem_cons_self ..))
    rw [List.foldlM_cons, largerOf, deref_eq_ok_iff.mpr hc1, Checked.ok_bind,
      deref_eq_ok_iff.mpr hc2, Checked.ok_bind]
    split_ifs with hlt
    · -- the new client takes over: it is larger than the one before
      obtain ⟨largest, v, hloop, hmem, hv, hle⟩ := @ih p fun q hq =>
        h q (List.mem_cons_of_mem _ hq)
      refine ⟨largest, v, hloop, List.mem_cons_of_mem _ hmem, hv, fun q hq w hw => ?_⟩
      rcases List.mem_cons.mp hq with rfl | hq
      · rw [hc1] at hw
        obtain rfl := Option.some.inj hw
        exact UInt32.le_trans (UInt32.le_of_lt hlt) (hle p (List.mem_cons_self ..) c2 hc2)
      · exact hle q hq w hw
    · -- the one before stays: the new client is not larger
      obtain ⟨largest, v, hloop, hmem, hv, hle⟩ := @ih first fun q hq => by
        rcases List.mem_cons.mp hq with rfl | hq
        · exact ⟨c1, hc1⟩
        · exact h q (List.mem_cons_of_mem _ (List.mem_cons_of_mem _ hq))
      have hmem' : largest ∈ first :: p :: rest := by
        rcases List.mem_cons.mp hmem with rfl | hmem
        · exact List.mem_cons_self ..
        · exact List.mem_cons_of_mem _ (List.mem_cons_of_mem _ hmem)
      refine ⟨largest, v, hloop, hmem', hv, fun q hq w hw => ?_⟩
      rcases List.mem_cons.mp hq with rfl | hq
      · exact hle q (List.mem_cons_self ..) w hw
      · rcases List.mem_cons.mp hq with rfl | hq
        · rw [hc2] at hw
          obtain rfl := Option.some.inj hw
          exact UInt32.le_trans (UInt32.not_lt.mp hlt) (hle first (List.mem_cons_self ..) c1 hc1)
        · exact hle q (List.mem_cons_of_mem _ hq) w hw

theorem sameLinks_onCliRead {cli : CfWebsocket} {json : CfJson} {called : Option UInt32}
    (h : s.onCliRead cli json = .ok (s', called)) : SameLinks s s' := by
  unfold onCliRead at h
  cases huser : s.userData cli with
  | none =>
    rw [huser] at h
    cases h
  | some vCli =>
    rw [huser] at h
    obtain ⟨-, -, h⟩ := Checked.bind_eq_ok.mp h
    split_ifs at h with hjson
    · obtain ⟨n, -, h⟩ := Checked.bind_eq_ok.mp h
      obtain ⟨s₁, hset, h⟩ := Checked.bind_eq_ok.mp h
      have hlinks := sameLinks_setPending hset
      split_ifs at h with hcall
      · obtain ⟨max, -, h⟩ := Checked.bind_eq_ok.mp h
        split_ifs at h with hmax
        · obtain ⟨rfl, -⟩ := Prod.mk.inj (Except.ok.inj h)
          exact hlinks.trans ⟨rfl, rfl, rfl, fun _ => rfl⟩
        · obtain ⟨rfl, -⟩ := Prod.mk.inj (Except.ok.inj h)
          exact hlinks
      · obtain ⟨rfl, -⟩ := Prod.mk.inj (Except.ok.inj h)
        exact hlinks
    · obtain ⟨rfl, -⟩ := Prod.mk.inj (Except.ok.inj h)
      exact .refl s

end Memory

/-! ### The invariant -/

/-- Every open connection has its own live object, and `cli_list` points to these objects in the
order of the connections. -/
structure Linked (s : Session) : Prop where
  nodup : s.connections.Nodup
  cliList_eq : s.server.cliList.map some = s.connections.map s.server.userData
  wsOf_userData : ∀ cli ∈ s.connections,
    ∃ vCli, s.server.userData cli = some vCli ∧ s.server.wsOf vCli = some cli

namespace Linked

variable {s : Session}

/-- `cli_list` is the list of the open connections. -/
theorem map_wsOf_cliList (h : Linked s) :
    s.server.cliList.map s.server.wsOf = s.connections.map some := by
  have hmap : (s.server.cliList.map some).map (fun p => p.bind s.server.wsOf) =
      (s.connections.map s.server.userData).map fun p => p.bind s.server.wsOf := by
    rw [h.cliList_eq]
  rw [List.map_map, List.map_map] at hmap
  refine hmap.trans (List.map_congr_left fun cli hcli => ?_)
  obtain ⟨vCli, huser, hws⟩ := h.wsOf_userData cli hcli
  rw [Function.comp_apply, huser]
  exact hws

/-- Different connections have different objects. -/
theorem userData_inj (h : Linked s) {cli cli' : CfWebsocket} (hcli : cli ∈ s.connections)
    (hcli' : cli' ∈ s.connections) (heq : s.server.userData cli = s.server.userData cli') :
    cli = cli' := by
  obtain ⟨vCli, huser, hws⟩ := h.wsOf_userData cli hcli
  obtain ⟨vCli', huser', hws'⟩ := h.wsOf_userData cli' hcli'
  rw [huser, huser'] at heq
  obtain rfl := Option.some.inj heq
  exact Option.some.inj (hws.symm.trans hws')

/-- The pointers of `cli_list` do not dangle. -/
theorem wsOf_of_mem (h : Linked s) {vCli : VideoCliPtr} (hmem : vCli ∈ s.server.cliList) :
    ∃ ws, s.server.wsOf vCli = some ws := by
  have hws : s.server.wsOf vCli ∈ s.connections.map some := by
    rw [← h.map_wsOf_cliList]
    exact List.mem_map_of_mem hmem
  obtain ⟨ws, -, hws⟩ := List.mem_map.mp hws
  exact ⟨ws, hws.symm⟩

/-- The invariant does not depend on pending counts. -/
theorem congr (h : Linked s) {server : WebSocketServerImplcFwk}
    (hlinks : SameLinks s.server server) : Linked ⟨server, s.connections⟩ := by
  refine ⟨h.nodup, ?_, fun cli hcli => ?_⟩
  · rw [hlinks.cliList_eq, hlinks.userData_eq]
    exact h.cliList_eq
  · obtain ⟨vCli, huser, hws⟩ := h.wsOf_userData cli hcli
    exact ⟨vCli, by rw [hlinks.userData_eq, huser], (hlinks.wsOf_eq vCli).trans hws⟩

theorem connect (h : Linked s) {cli : CfWebsocket} {vCli : VideoCliPtr} (residue : UInt32)
    (hcli : cli ∉ s.connections) (halloc : s.server.memory vCli = none) :
    Linked ⟨s.server.onNewWebsocket cli vCli residue, s.connections ++ [cli]⟩ := by
  have hne : ∀ c ∈ s.connections, c ≠ cli := by
    rintro c hc rfl
    exact hcli hc
  refine ⟨?_, ?_, ?_⟩
  · exact List.nodup_append.mpr ⟨h.nodup, List.nodup_singleton cli, fun c hc c' hc' => by
      rw [List.mem_singleton.mp hc']
      exact hne c hc⟩
  · have hold : s.connections.map (Function.update s.server.userData cli (some vCli)) =
        s.connections.map s.server.userData :=
      List.map_congr_left fun c hc => Function.update_of_ne (hne c hc) _ _
    show (s.server.cliList ++ [vCli]).map some =
      (s.connections ++ [cli]).map (Function.update s.server.userData cli (some vCli))
    rw [List.map_append, List.map_append, h.cliList_eq, hold, List.map_singleton,
      List.map_singleton, Function.update_self]
  · intro c hc
    unfold onNewWebsocket wsOf
    dsimp only
    rcases List.mem_append.mp hc with hold | hnew
    · -- an old connection keeps its object, which is not at the free address
      obtain ⟨p, huser, hws⟩ := h.wsOf_userData c hold
      have hp : p ≠ vCli := by
        rintro rfl
        rw [wsOf, halloc] at hws
        cases hws
      refine ⟨p, ?_, ?_⟩
      · rw [Function.update_of_ne (hne c hold), huser]
      · rw [Function.update_of_ne hp]
        exact hws
    · obtain rfl := List.mem_singleton.mp hnew
      exact ⟨vCli, Function.update_self .., by rw [Function.update_self]; rfl⟩

theorem disconnect (h : Linked s) {cli : CfWebsocket} (hcli : cli ∈ s.connections) :
    Linked ⟨s.server.onDisconnect cli, s.connections.filter fun c => c ≠ cli⟩ := by
  obtain ⟨vCli, huser, hws⟩ := h.wsOf_userData cli hcli
  have hdis : s.server.onDisconnect cli = { s.server with
      cliList := s.server.cliList.filter fun p => p ≠ vCli
      memory := Function.update s.server.memory vCli none } := by
    rw [onDisconnect, huser]
  -- no other connection has the object that is freed
  have hother : ∀ c ∈ s.connections, (c ≠ cli ↔ s.server.userData c ≠ some vCli) := by
    intro c hc
    rw [← huser]
    exact not_congr ⟨fun heq => by rw [heq], h.userData_inj hc hcli⟩
  rw [hdis]
  refine ⟨h.nodup.filter _, ?_, fun c hc => ?_⟩
  · -- removing the pointer from the list removes the connection
    have hpointers : (s.server.cliList.filter fun p => p ≠ vCli).map some =
        (s.server.cliList.map some).filter fun p => p ≠ some vCli := by
      rw [List.filter_map]
      congr 2
      ext p
      simp
    have hconnections : (s.connections.map s.server.userData).filter (fun p => p ≠ some vCli) =
        (s.connections.filter fun c => c ≠ cli).map s.server.userData := by
      rw [List.filter_map]
      congr 1
      apply List.filter_congr
      intro c hc
      rw [Function.comp_apply, decide_eq_decide]
      exact (hother c hc).symm
    show (s.server.cliList.filter fun p => p ≠ vCli).map some =
      (s.connections.filter fun c => c ≠ cli).map s.server.userData
    rw [hpointers, h.cliList_eq, hconnections]
  · obtain ⟨hmem, hne⟩ := List.mem_filter.mp hc
    obtain ⟨p, huser', hws'⟩ := h.wsOf_userData c hmem
    have hp : p ≠ vCli := by
      rintro rfl
      exact (hother c hmem).mp (by simpa using hne) huser'
    refine ⟨p, huser', ?_⟩
    unfold wsOf
    dsimp only
    rw [Function.update_of_ne hp]
    exact hws'

/-- The reset of the older clients returns. -/
theorem resetOlder_eq_ok (h : Linked s) :
    ∃ server, s.server.resetOlder = .ok server ∧ SameLinks s.server server := by
  unfold resetOlder
  split_ifs
  · refine resetLoop_eq_ok fun p hp => h.wsOf_of_mem ?_
    exact List.mem_reverse.mp (List.mem_of_mem_drop hp)
  · exact ⟨s.server, rfl, .refl _⟩

/-- The frame goes to the two newest connections, the newest first. -/
theorem writeNewest_eq_ok (h : Linked s) (buff : List UInt8) :
    s.server.writeNewest buff =
      .ok ((s.connections.reverse.take 2).map fun cli => (cli, buff)) := by
  have hreceivers : (if s.server.cliList.length > 2 then s.server.cliList.reverse.take 2
      else s.server.cliList.reverse) = s.server.cliList.reverse.take 2 := by
    split_ifs with hlen
    · rfl
    · -- two of at most two clients are all of them
      rw [List.take_of_length_le]
      rw [List.length_reverse]
      omega
  have hws : (s.server.cliList.reverse.take 2).map s.server.wsOf =
      (s.connections.reverse.take 2).map some := by
    rw [List.map_take, List.map_reverse, h.map_wsOf_cliList, ← List.map_reverse, ← List.map_take]
  rw [← List.forall₂_eq_eq_eq, List.forall₂_map_left_iff, List.forall₂_map_right_iff] at hws
  unfold writeNewest
  rw [hreceivers]
  refine Checked.mapM_eq_ok (List.forall₂_map_right_iff.mpr (hws.imp fun p cli hp => ?_))
  obtain ⟨v, hv, rfl⟩ := wsOf_eq_some_iff.mp hp
  rw [deref_eq_ok_iff.mpr hv]
  rfl

theorem pushData_eq_ok (h : Linked s) (buff : List UInt8) :
    ∃ server, s.server.pushData buff =
        .ok (server, (s.connections.reverse.take 2).map fun cli => (cli, buff)) ∧
      SameLinks s.server server := by
  obtain ⟨server, hreset, hlinks⟩ := h.resetOlder_eq_ok
  refine ⟨server, ?_, hlinks⟩
  rw [pushData_eq, hreset, Checked.ok_bind, (h.congr hlinks).writeNewest_eq_ok]
  rfl

/-- With a connection open the maximum is the greatest count of a client. -/
theorem maxPending_eq_ok (h : Linked s) (hne : s.connections ≠ []) :
    ∃ max, s.server.maxPending = .ok max ∧ s.server.IsMaxPending max := by
  have hlive : ∀ p ∈ s.server.cliList, ∃ v, s.server.memory p = some v := by
    intro p hp
    obtain ⟨ws, hws⟩ := h.wsOf_of_mem hp
    obtain ⟨v, hv, -⟩ := wsOf_eq_some_iff.mp hws
    exact ⟨v, hv⟩
  unfold maxPending IsMaxPending
  cases hlist : s.server.cliList with
  | nil =>
    -- an empty `cli_list` means that no connection is open
    have hmap := h.map_wsOf_cliList
    rw [hlist, List.map_nil] at hmap
    exact absurd (List.map_eq_nil_iff.mp hmap.symm) hne
  | cons first rest =>
    rw [hlist] at hlive
    obtain ⟨largest, v, hloop, hmem, hv, hle⟩ := maxLoop_eq_ok hlive
    refine ⟨v.pendingH264, ?_, ⟨largest, hmem, v, hv, rfl⟩, hle⟩
    show (do let largest ← rest.foldlM s.server.largerOf first; _) = _
    rw [hloop, Checked.ok_bind, deref_eq_ok_iff.mpr hv]
    rfl

/-- A report of an open connection: the callback gets the new maximum if that differs from the
recorded one, or is 0, and the new maximum is the recorded one afterwards. -/
theorem onCliRead_eq_ok (h : Linked s) (hcallback : s.server.onMaxPendingChanged = true)
    {cli : CfWebsocket} (hcli : cli ∈ s.connections) {json : CfJson} {n : Int32}
    (hjson : json.getInt "pendingH264pkg" = .ok n) :
    ∃ server max, s.server.onCliRead cli json =
        .ok (server, if max ≠ s.server.mMaxPending ∨ max = 0 then some max else none) ∧
      SameLinks s.server server ∧ server.maxPending = .ok max ∧ server.IsMaxPending max ∧
      server.mMaxPending = max := by
  obtain ⟨vCli, huser, hws⟩ := h.wsOf_userData cli hcli
  obtain ⟨v, hv, -⟩ := wsOf_eq_some_iff.mp hws
  obtain ⟨s₁, hset⟩ : ∃ s₁, s.server.setPending vCli n.toUInt32 = .ok s₁ :=
    ⟨_, setPending_eq_ok_iff.mpr ⟨v, hv, rfl⟩⟩
  have hlinks := sameLinks_setPending hset
  have hrecorded : s₁.mMaxPending = s.server.mMaxPending := by
    obtain ⟨v', -, rfl⟩ := setPending_eq_ok_iff.mp hset
    rfl
  obtain ⟨max, hmax, hgreatest⟩ := (h.congr hlinks).maxPending_eq_ok (List.ne_nil_of_mem hcli)
  have hread : s.server.onCliRead cli json = if max ≠ s₁.mMaxPending ∨ max = 0 then
      pure ({ s₁ with mMaxPending := max }, some max) else pure (s₁, none) := by
    unfold onCliRead
    rw [huser]
    dsimp only
    rw [deref_eq_ok_iff.mpr hv, Checked.ok_bind, if_pos (CfJson.contains_of_getInt hjson), hjson,
      Checked.ok_bind, hset, Checked.ok_bind,
      if_pos (hlinks.onMaxPendingChanged_eq.trans hcallback), hmax]
    rfl
  rw [hread, hrecorded]
  by_cases hchanged : max ≠ s.server.mMaxPending ∨ max = 0
  · refine ⟨{ s₁ with mMaxPending := max }, max, ?_, hlinks.trans ⟨rfl, rfl, rfl, fun _ => rfl⟩,
      hmax, hgreatest, rfl⟩
    rw [if_pos hchanged, if_pos hchanged]
    rfl
  · refine ⟨s₁, max, ?_, hlinks, hmax, hgreatest, ?_⟩
    · rw [if_neg hchanged, if_neg hchanged]
      rfl
    · -- the callback is passed over only when the maximum is the recorded one
      rw [hrecorded]
      by_contra hne
      exact hchanged (Or.inl (Ne.symm hne))

/-- Every step keeps the invariant. -/
theorem step (h : Linked s) {e : Event} {s' : Session} (hs : Step s e s') : Linked s' := by
  cases hs with
  | connect residue hcli halloc => exact h.connect residue hcli halloc
  | disconnect hcli => exact h.disconnect hcli
  | read _ hread => exact h.congr (sameLinks_onCliRead hread)
  | push hpush =>
    obtain ⟨server, hok, hlinks⟩ := h.pushData_eq_ok _
    rw [hpush] at hok
    obtain ⟨rfl, -⟩ := Prod.mk.inj (Except.ok.inj hok)
    exact h.congr hlinks
  | setCallback => exact ⟨h.nodup, h.cliList_eq, h.wsOf_userData⟩

end Linked

/-! ### Runs -/

theorem linked_new (residue : UInt32) : Linked (.new residue) :=
  ⟨List.nodup_nil, rfl, fun _ hcli => absurd hcli List.not_mem_nil⟩

theorem linked_of_run {residue : UInt32} {tr : List Event} {s : Session}
    (h : Run Step (.new residue) tr s) : Linked s :=
  h.stateInvariant Linked (linked_new residue) fun _ _ _ hI hs => hI.step hs

/-- The connections of a run are the open ones of its history. -/
theorem connections_of_run {residue : UInt32} {tr : List Event} {s : Session}
    (h : Run Step (.new residue) tr s) : s.connections = openConnections tr := by
  refine h.invariant (fun tr s => s.connections = openConnections tr) rfl ?_
  intro tr s e s' _ hI hs
  unfold openConnections at hI ⊢
  rw [List.foldl_append, List.foldl_cons, List.foldl_nil, ← hI]
  cases hs <;> rfl

/-- **The fan-out**: after any run a frame is written once to each of the two newest open
connections, or to as many as there are, the newest first, and to no other; and `cli_list` holds
every open connection once, in the order in which they were opened. -/
theorem pushData_newest_two (residue : UInt32) (tr : List Event) (s : Session)
    (h : Run Step (.new residue) tr s) (buff : List UInt8) :
    (openConnections tr).Nodup ∧
      s.server.cliList.map s.server.wsOf = (openConnections tr).map some ∧
      ∃ server, s.server.pushData buff =
        .ok (server, ((openConnections tr).reverse.take 2).map fun cli => (cli, buff)) := by
  have hlinked := linked_of_run h
  rw [← connections_of_run h]
  obtain ⟨server, hpush, -⟩ := hlinked.pushData_eq_ok buff
  exact ⟨hlinked.nodup, hlinked.map_wsOf_cliList, server, hpush⟩

/-- Three clients, of which the second has left again. -/
theorem pushData_newest_two_of_three :
    ∃ s, Run Step (.new 7) [.connect 1, .connect 2, .connect 3, .disconnect 2] s ∧
      (openConnections [.connect 1, .connect 2, .connect 3, .disconnect 2]).Nodup ∧
      s.server.cliList.map s.server.wsOf =
        (openConnections [.connect 1, .connect 2, .connect 3, .disconnect 2]).map some ∧
      ∃ server, s.server.pushData [0, 1] = .ok (server,
        ((openConnections [.connect 1, .connect 2, .connect 3, .disconnect 2]).reverse.take 2).map
          fun cli => (cli, [0, 1])) := by
  have h1 : Step (.new 7) (.connect 1) ⟨(new 7).onNewWebsocket 1 101 0, [1]⟩ :=
    .connect 0 (by decide) rfl
  have h2 : Step ⟨(new 7).onNewWebsocket 1 101 0, [1]⟩ (.connect 2)
      ⟨((new 7).onNewWebsocket 1 101 0).onNewWebsocket 2 102 5, [1, 2]⟩ :=
    .connect 5 (by simp) rfl
  have h3 : Step ⟨((new 7).onNewWebsocket 1 101 0).onNewWebsocket 2 102 5, [1, 2]⟩ (.connect 3)
      ⟨(((new 7).onNewWebsocket 1 101 0).onNewWebsocket 2 102 5).onNewWebsocket 3 103 0,
        [1, 2, 3]⟩ := .connect 0 (by simp) rfl
  have hmem : (2 : CfWebsocket) ∈ [1, 2, 3] := by simp
  have hrun := (((Run.nil.snoc h1).snoc h2).snoc h3).snoc (.disconnect hmem)
  exact ⟨_, hrun, pushData_newest_two 7 _ _ hrun [0, 1]⟩

end Mvr.WebSocketServerImplcFwk
