import Mvr.WebsocketServerImplQt.Basic
import Mvr.Lts.Basic
import Mathlib.Data.List.Nodup

/-!
# The counts and their clients

`view` is what the clients told: the count each connected client reported last, or 0.  A client
without a position in `m_client_pendings` has not told anything (`Tracks`, an invariant of every
run).  The counts at the other positions are those of the clients there (`Attached`) as long as no
client leaves from in front of a different count and none joins at the position of a count that was
left behind: these are the steps of `Keeps`, and the property holds always along exactly the runs of
such steps (`attached_always_iff`).
-/

namespace Mvr.WebsocketServerImplQt

/-! ### Vectors and lists -/

theorem getElem?_resize (v : List Int32) (size j : ℕ) :
    (QVector.resize v size)[j]? = if j < size then some ((v[j]?).getD 0) else none := by
  unfold QVector.resize
  rcases Nat.lt_or_ge j size with hj | hj
  · rw [if_pos hj]
    rcases Nat.lt_or_ge j v.length with hv | hv
    · rw [List.getElem?_append_left (by rw [List.length_take]; omega), List.getElem?_take_of_lt hj,
        List.getElem?_eq_getElem hv]
      rfl
    · -- a new item
      rw [List.getElem?_append_right (by rw [List.length_take]; omega), List.length_take,
        List.getElem?_replicate, if_pos (by omega), List.getElem?_eq_none hv]
      rfl
  · rw [if_neg (by omega), List.getElem?_eq_none]
    rw [List.length_append, List.length_take, List.length_replicate]
    omega

@[simp] theorem length_resize (v : List Int32) (size : ℕ) :
    (QVector.resize v size).length = size := by
  rw [QVector.resize, List.length_append, List.length_take, List.length_replicate]
  omega

/-- The loop clears all but the last two counts. -/
theorem getElem?_clearOlder (pendings : List Int32) (j : ℕ) :
    (clearOlder pendings)[j]? =
      if j + 2 < pendings.length then some 0 else pendings[j]? := by
  have hloop : ∀ (k : ℕ), k ≤ pendings.length →
      ∀ j, ((List.range k).foldl (fun v i => v.set i 0) pendings)[j]? =
        if j < k then some 0 else pendings[j]? := by
    intro k
    induction k with
    | zero => simp
    | succ k ih =>
      intro hk j
      rw [List.range_succ, List.foldl_append, List.foldl_cons, List.foldl_nil, List.getElem?_set']
      rcases eq_or_ne k j with rfl | hne
      · rw [if_pos rfl, ih (by omega), if_neg (by omega), if_pos (by omega),
          List.getElem?_eq_getElem (by omega)]
        rfl
      · rw [if_neg hne, ih (by omega)]
        split_ifs <;> first | rfl | omega
  unfold clearOlder
  rw [hloop _ (by omega)]
  split_ifs <;> first | rfl | omega

theorem mem_take_iff_of_nodup {α : Type*} {l : List α} (h : l.Nodup) {n j : ℕ} {a : α}
    (ha : l[j]? = some a) : a ∈ l.take n ↔ j < n := by
  obtain ⟨hj, rfl⟩ := List.getElem?_eq_some_iff.mp ha
  rw [List.mem_take_iff_getElem]
  constructor
  · rintro ⟨i, hi, heq⟩
    have := (List.getElem_inj h).mp heq
    omega
  · intro hlt
    exact ⟨j, by omega, rfl⟩

theorem idxOf_of_getElem? {l : List QWebSocketPtr} (h : l.Nodup) {j : ℕ} {p : QWebSocketPtr}
    (hp : l[j]? = some p) : l.idxOf p = j := by
  obtain ⟨hj, rfl⟩ := List.getElem?_eq_some_iff.mp hp
  exact h.idxOf_getElem j hj

/-- Removing an item moves those behind it. -/
theorem getElem?_filter_ne {l : List QWebSocketPtr} (h : l.Nodup) (p : QWebSocketPtr) (j : ℕ) :
    (l.filter fun q => q ≠ p)[j]? = if j < l.idxOf p then l[j]? else l[j + 1]? := by
  have herase : (l.filter fun q => q ≠ p) = l.eraseIdx (l.idxOf p) := by
    rw [← List.erase_eq_eraseIdx_of_idxOf rfl, h.erase_eq_filter]
    refine List.filter_congr fun q _ => ?_
    rw [Bool.eq_iff_iff, bne_iff_ne, decide_eq_true_eq]
  rw [herase, List.getElem?_eraseIdx]

/-! ### What the clients told -/

/-- The connected clients, and the count of each. -/
structure View where
  clients : List QWebSocketPtr
  count : QWebSocketPtr → Int32

/-- The view after an event. -/
def View.after (v : View) : Event → View
  | .newConnection pSocket =>
    if v.clients.length ≥ 50 then v
    else ⟨v.clients ++ [pSocket], Function.update v.count pSocket 0⟩
  | .testMsg pClient (some n) _ => ⟨v.clients, Function.update v.count pClient n⟩
  | .testMsg _ none _ => v
  | .disconnected pClient => ⟨v.clients.filter fun p => p ≠ pClient, v.count⟩
  -- all but the last two clients are reset
  | .pushData _ _ =>
    ⟨v.clients, fun p => if p ∈ v.clients.take (v.clients.length - 2) then 0 else v.count p⟩
  | .setCallback => v

/-- The view after the events. -/
def view (tr : List Event) : View := tr.foldl View.after ⟨[], fun _ => 0⟩

theorem view_append_singleton (tr : List Event) (e : Event) :
    view (tr ++ [e]) = (view tr).after e := by
  rw [view, List.foldl_append]
  rfl

/-- The count at a position, 0 behind the end of the vector. -/
def countAt (s : WebsocketServerImplQt) (j : ℕ) : Int32 := (s.mClientPendings[j]?).getD 0

/-- The count at the position of a client is the client's own. -/
def Attached (tr : List Event) (s : WebsocketServerImplQt) : Prop :=
  ∀ (j : ℕ) (p : QWebSocketPtr) (n : Int32), s.mClients[j]? = some p →
    s.mClientPendings[j]? = some n → n = (view tr).count p

/-- The view has the clients of the server, each once, and a client without a position in
`m_client_pendings` counts nothing. -/
structure Tracks (v : View) (s : WebsocketServerImplQt) : Prop where
  clients_eq : v.clients = s.mClients
  nodup : s.mClients.Nodup
  count_eq : ∀ (j : ℕ) (p : QWebSocketPtr), s.mClients[j]? = some p →
    s.mClientPendings.length ≤ j → v.count p = 0

/-- The count at the position of each client is its own, where there is no position 0. -/
def Counts (v : View) (s : WebsocketServerImplQt) : Prop :=
  ∀ (j : ℕ) (p : QWebSocketPtr), s.mClients[j]? = some p → s.countAt j = v.count p

/-- For clients that are tracked the positions behind the end make no difference. -/
theorem Tracks.attached_iff {tr : List Event} {s : WebsocketServerImplQt}
    (h : Tracks (view tr) s) : Attached tr s ↔ Counts (view tr) s := by
  constructor
  · intro hatt j p hp
    unfold countAt
    cases hn : s.mClientPendings[j]? with
    | none => exact (h.count_eq j p hp (List.getElem?_eq_none_iff.mp hn)).symm
    | some n => exact hatt j p n hp hn
  · intro hall j p n hp hn
    rw [← hall j p hp, countAt, hn]
    rfl

/-! ### One step -/

section Step

variable {s s' : WebsocketServerImplQt}

/-- Growing the vector to an index changes no count. -/
theorem grow_spec (v : List Int32) (i : ℤ) :
    ∃ w : List Int32, (if i ≥ v.length then QVector.resize v (i + 1).toNat else v) = w ∧
      v.length ≤ w.length ∧ i < w.length ∧ ∀ j : ℕ, (w[j]?).getD 0 = (v[j]?).getD 0 := by
  refine ⟨_, rfl, ?_⟩
  split_ifs with h
  · rw [length_resize]
    refine ⟨by omega, by omega, fun j => ?_⟩
    rw [getElem?_resize]
    split_ifs with hj
    · rfl
    · -- behind the new end there was nothing before
      rw [List.getElem?_eq_none (by omega)]
  · exact ⟨le_rfl, by omega, fun j => rfl⟩

/-- The callback does not concern the lists. -/
theorem reportMax_lists {called : Option Int32} (h : s.reportMax = .ok (s', called)) :
    s'.mClients = s.mClients ∧ s'.mClientPendings = s.mClientPendings := by
  unfold reportMax at h
  split_ifs at h
  · obtain ⟨max, -, h⟩ := Checked.bind_eq_ok.mp h
    split_ifs at h
    all_goals
      obtain ⟨rfl, -⟩ := Prod.mk.inj (Except.ok.inj h)
      exact ⟨rfl, rfl⟩
  · obtain ⟨rfl, -⟩ := Prod.mk.inj (Except.ok.inj h)
    exact ⟨rfl, rfl⟩

/-- A message changes no count but that of a client that reports. -/
theorem onClientTestMsg_lists {pClient : QWebSocketPtr} {pendingH264pkg called : Option Int32}
    (h : s.onClientTestMsg pClient pendingH264pkg = .ok (s', called)) :
    s'.mClients = s.mClients ∧ s.mClientPendings.length ≤ s'.mClientPendings.length ∧
      (pendingH264pkg = none ∧ (∀ j, s'.countAt j = s.countAt j) ∨
        ∃ n, pendingH264pkg = some n ∧ pClient ∈ s.mClients ∧
          s.mClients.idxOf pClient < s'.mClientPendings.length ∧
          ∀ j, s'.countAt j = if s.mClients.idxOf pClient = j then n else s.countAt j) := by
  obtain ⟨w, hw, hlen, hinx, hcount⟩ := grow_spec s.mClientPendings (s.indexOf pClient)
  have hgrow : (if s.indexOf pClient ≥ s.mClientPendings.length then
      { s with mClientPendings := QVector.resize s.mClientPendings (s.indexOf pClient + 1).toNat }
      else s) = { s with mClientPendings := w } := by
    rw [← hw]
    split_ifs <;> rfl
  unfold onClientTestMsg at h
  dsimp only at h
  rw [hgrow] at h
  cases pendingH264pkg with
  | none =>
    obtain ⟨rfl, -⟩ := Prod.mk.inj (Except.ok.inj h)
    exact ⟨rfl, hlen, Or.inl ⟨rfl, hcount⟩⟩
  | some n =>
    obtain ⟨pendings, hset, h⟩ := Checked.bind_eq_ok.mp h
    obtain ⟨hclients, hpendings⟩ := reportMax_lists h
    unfold QVector.set at hset
    split_ifs at hset with hbounds
    obtain rfl := Except.ok.inj hset
    -- the index is not -1, so the sender is a client
    have hmem : pClient ∈ s.mClients := by
      by_contra hnot
      rw [indexOf, if_neg hnot] at hbounds
      omega
    have hindex : (s.indexOf pClient).toNat = s.mClients.idxOf pClient := by
      rw [indexOf, if_pos hmem]
      exact Int.toNat_natCast _
    rw [hindex] at hpendings
    refine ⟨hclients, ?_, Or.inr ⟨n, rfl, hmem, ?_, fun j => ?_⟩⟩
    · rw [hpendings, List.length_set]
      exact hlen
    · rw [hpendings, List.length_set]
      show s.mClients.idxOf pClient < w.length
      omega
    · unfold countAt
      rw [hpendings, List.getElem?_set]
      split_ifs with hj hlt
      · rfl
      · exact absurd (show _ < w.length by omega) hlt
      · exact hcount j

/-- `OnPushData` gives every client a position, and clears all but the last two. -/
theorem onPushData_lists (isValid : QWebSocketPtr → Bool) (bytes : List UInt8) :
    (s.onPushData isValid bytes).1.mClientPendings.length = s.mClients.length ∧
      ∀ j < s.mClients.length, (s.onPushData isValid bytes).1.countAt j =
        if j + 2 < s.mClients.length then 0 else s.countAt j := by
  have hresize : (if s.mClientPendings.length ≠ s.mClients.length then
      QVector.resize s.mClientPendings s.mClients.length else s.mClientPendings) =
      QVector.resize s.mClientPendings s.mClients.length := by
    split_ifs with hne
    · rfl
    · rw [← not_not.mp hne]
      simp [QVector.resize]
  have hpendings : (s.onPushData isValid bytes).1.mClientPendings =
      clearOlder (QVector.resize s.mClientPendings s.mClients.length) := by
    rw [← hresize]
    rfl
  have hlen : ∀ v : List Int32, (clearOlder v).length = v.length := fun v => by
    unfold clearOlder
    generalize List.range (v.length - 2) = l
    induction l generalizing v with
    | nil => rfl
    | cons i l ih => rw [List.foldl_cons, ih, List.length_set]
  refine ⟨by rw [hpendings, hlen, length_resize], fun j hj => ?_⟩
  unfold countAt
  rw [hpendings, getElem?_clearOlder, length_resize]
  split_ifs with hold
  · rfl
  · rw [getElem?_resize, if_pos hj]
    rfl

end Step

/-- The steps that leave every count with its client: a client joins where no count was left behind,
and one leaves only if every count behind its own is that of the next position. -/
def Keeps (s : WebsocketServerImplQt) : Event → Prop
  | .newConnection _ => s.mClients.length < 50 → s.countAt s.mClients.length = 0
  | .disconnected pClient => ∀ j, s.mClients.idxOf pClient ≤ j → j + 1 < s.mClients.length →
      s.countAt j = s.countAt (j + 1)
  | _ => True

namespace Tracks

variable {v : View} {s s' : WebsocketServerImplQt}

theorem newConnection (h : Tracks v s) {pSocket : QWebSocketPtr} (hnew : pSocket ∉ s.mClients) :
    Tracks (v.after (.newConnection pSocket)) (s.onNewConnection pSocket) := by
  unfold onNewConnection View.after
  rw [h.clients_eq]
  split_ifs with hfull
  · exact h
  · refine ⟨rfl, ?_, fun j p hp hj => ?_⟩
    · rw [List.nodup_append]
      refine ⟨h.nodup, List.nodup_singleton _, fun p hp q hq => ?_⟩
      rintro rfl
      exact hnew (List.mem_singleton.mp hq ▸ hp)
    · dsimp only at hp ⊢
      rcases eq_or_ne p pSocket with rfl | hne
      · exact Function.update_self ..
      · -- an old client
        rw [Function.update_of_ne hne]
        have hlt : j < s.mClients.length := by
          by_contra hge
          rw [List.getElem?_append_right (by omega)] at hp
          exact hne (List.mem_singleton.mp (List.mem_of_getElem? hp))
        rw [List.getElem?_append_left hlt] at hp
        exact h.count_eq j p hp hj

theorem testMsg (h : Tracks v s) {pClient : QWebSocketPtr} {pendingH264pkg called : Option Int32}
    (hmsg : s.onClientTestMsg pClient pendingH264pkg = .ok (s', called)) :
    Tracks (v.after (.testMsg pClient pendingH264pkg called)) s' := by
  obtain ⟨hclients, hlen, hcases⟩ := onClientTestMsg_lists hmsg
  have hnodup : s'.mClients.Nodup := by
    rw [hclients]
    exact h.nodup
  rcases hcases with ⟨rfl, -⟩ | ⟨n, rfl, -, hlt, -⟩
  · refine ⟨h.clients_eq.trans hclients.symm, hnodup, fun j p hp hj => ?_⟩
    rw [hclients] at hp
    exact h.count_eq j p hp (by omega)
  · refine ⟨h.clients_eq.trans hclients.symm, hnodup, fun j p hp hj => ?_⟩
    rw [hclients] at hp
    -- the client that reports has a position now
    have hne : p ≠ pClient := by
      rintro rfl
      rw [idxOf_of_getElem? h.nodup hp] at hlt
      omega
    show Function.update v.count pClient n p = 0
    rw [Function.update_of_ne hne]
    exact h.count_eq j p hp (by omega)

theorem disconnected (h : Tracks v s) (pClient : QWebSocketPtr) :
    Tracks (v.after (.disconnected pClient)) (s.socketDisconnected pClient) := by
  refine ⟨?_, h.nodup.filter _, fun j p hp hj => ?_⟩
  · show v.clients.filter _ = _
    rw [h.clients_eq]
    rfl
  · show v.count p = 0
    unfold socketDisconnected at hp hj
    dsimp only at hp hj
    rw [getElem?_filter_ne h.nodup] at hp
    split_ifs at hp
    · exact h.count_eq j p hp hj
    · exact h.count_eq (j + 1) p hp (by omega)

theorem pushData (h : Tracks v s) (isValid : QWebSocketPtr → Bool) (bytes : List UInt8) :
    Tracks (v.after (.pushData isValid bytes)) (s.onPushData isValid bytes).1 := by
  obtain ⟨hlen, -⟩ := onPushData_lists (s := s) isValid bytes
  refine ⟨h.clients_eq, h.nodup, fun j p hp hj => ?_⟩
  have hlt := (List.getElem?_eq_some_iff.mp hp).1
  rw [hlen] at hj
  exact absurd hj (Nat.not_le.mpr hlt)

/-- Every step keeps track of the clients. -/
theorem step (h : Tracks v s) {e : Event} (hs : Step s e s') : Tracks (v.after e) s' := by
  cases hs with
  | newConnection hnew => exact h.newConnection hnew
  | testMsg hmsg => exact h.testMsg hmsg
  | disconnected => exact h.disconnected _
  | pushData => exact h.pushData _ _
  | setCallback => exact ⟨h.clients_eq, h.nodup, h.count_eq⟩

/-- A client that joins finds the count that was left behind at its position. -/
theorem counts_newConnection_iff (h : Tracks v s) (hcounts : Counts v s)
    {pSocket : QWebSocketPtr} (hnew : pSocket ∉ s.mClients) :
    Counts (v.after (.newConnection pSocket)) (s.onNewConnection pSocket) ↔
      Keeps s (.newConnection pSocket) := by
  unfold onNewConnection View.after Keeps
  rw [h.clients_eq]
  split_ifs with hfull
  · exact iff_of_true hcounts fun hroom => absurd hroom (by omega)
  · constructor
    · intro hall _
      have hlast := hall s.mClients.length pSocket
        (by rw [List.getElem?_append_right le_rfl]; simp)
      dsimp only at hlast
      rw [Function.update_self] at hlast
      exact hlast
    · intro hempty j p hp
      dsimp only at hp ⊢
      rcases Nat.lt_or_ge j s.mClients.length with hj | hj
      · -- an old client keeps position and count
        rw [List.getElem?_append_left hj] at hp
        have hne : p ≠ pSocket := by
          rintro rfl
          exact hnew (List.mem_of_getElem? hp)
        rw [Function.update_of_ne hne]
        exact hcounts j p hp
      · have hj' : j = s.mClients.length := by
          have hlt := (List.getElem?_eq_some_iff.mp hp).1
          rw [List.length_append, List.length_singleton] at hlt
          omega
        subst hj'
        rw [List.getElem?_append_right le_rfl, Nat.sub_self] at hp
        obtain rfl : pSocket = p := by simpa using hp
        rw [Function.update_self]
        exact hempty (by omega)

/-- A message sets the count of its sender alone. -/
theorem counts_testMsg (h : Tracks v s) (hcounts : Counts v s) {pClient : QWebSocketPtr}
    {pendingH264pkg called : Option Int32}
    (hmsg : s.onClientTestMsg pClient pendingH264pkg = .ok (s', called)) :
    Counts (v.after (.testMsg pClient pendingH264pkg called)) s' := by
  obtain ⟨hclients, -, ⟨rfl, hcount⟩ | ⟨n, rfl, hmem, -, hcount⟩⟩ := onClientTestMsg_lists hmsg
  · intro j p hp
    rw [hclients] at hp
    rw [hcount]
    exact hcounts j p hp
  · intro j p hp
    rw [hclients] at hp
    show s'.countAt j = Function.update v.count pClient n p
    rw [hcount]
    rcases eq_or_ne p pClient with rfl | hne
    · rw [Function.update_self, if_pos (idxOf_of_getElem? h.nodup hp)]
    · have hj : s.mClients.idxOf pClient ≠ j := by
        rintro rfl
        rw [List.getElem?_eq_getElem (List.idxOf_lt_length_of_mem hmem), List.getElem_idxOf] at hp
        exact hne (Option.some.inj hp).symm
      rw [Function.update_of_ne hne, if_neg hj]
      exact hcounts j p hp

/-- The clients behind one that leaves move to the positions before theirs. -/
theorem counts_disconnected_iff (h : Tracks v s) (hcounts : Counts v s)
    (pClient : QWebSocketPtr) :
    Counts (v.after (.disconnected pClient)) (s.socketDisconnected pClient) ↔
      Keeps s (.disconnected pClient) := by
  have hafter : ∀ j, (s.socketDisconnected pClient).mClients[j]? =
      if j < s.mClients.idxOf pClient then s.mClients[j]? else s.mClients[j + 1]? :=
    getElem?_filter_ne h.nodup pClient
  have hcount : ∀ j, (s.socketDisconnected pClient).countAt j = s.countAt j := fun j => rfl
  constructor
  · intro hall j hj hlt
    have hp : s.mClients[j + 1]? = some s.mClients[j + 1] := List.getElem?_eq_getElem hlt
    rw [hcounts (j + 1) _ hp]
    exact hall j _ (by rw [hafter, if_neg (by omega), hp])
  · intro hkeep j p hp
    rw [hafter] at hp
    rw [hcount]
    split_ifs at hp with hj
    · exact hcounts j p hp
    · rw [hkeep j (by omega) (List.getElem?_eq_some_iff.mp hp).1]
      exact hcounts (j + 1) p hp

/-- The clients that are reset are those of the positions that are cleared. -/
theorem counts_pushData (h : Tracks v s) (hcounts : Counts v s) (isValid : QWebSocketPtr → Bool)
    (bytes : List UInt8) :
    Counts (v.after (.pushData isValid bytes)) (s.onPushData isValid bytes).1 := by
  obtain ⟨-, hcount⟩ := onPushData_lists (s := s) isValid bytes
  intro j p hp
  have hlt := (List.getElem?_eq_some_iff.mp hp).1
  have hold : p ∈ s.mClients.take (s.mClients.length - 2) ↔ j < s.mClients.length - 2 :=
    mem_take_iff_of_nodup h.nodup hp
  show _ = if p ∈ v.clients.take (v.clients.length - 2) then 0 else v.count p
  rw [h.clients_eq, hcount j hlt]
  by_cases hj : j + 2 < s.mClients.length
  · rw [if_pos hj, if_pos (hold.mpr (by omega))]
  · rw [if_neg hj, if_neg fun hmem => hj (by have := hold.mp hmem; omega)]
    exact hcounts j p hp

/-- **One step**: the counts stay with their clients in exactly the steps of `Keeps`. -/
theorem counts_step_iff (h : Tracks v s) (hcounts : Counts v s) {e : Event} (hs : Step s e s') :
    Counts (v.after e) s' ↔ Keeps s e := by
  cases hs with
  | newConnection hnew => exact h.counts_newConnection_iff hcounts hnew
  | testMsg hmsg => exact iff_of_true (h.counts_testMsg hcounts hmsg) trivial
  | disconnected => exact h.counts_disconnected_iff hcounts _
  | pushData => exact iff_of_true (h.counts_pushData hcounts _ _) trivial
  | setCallback => exact iff_of_true hcounts trivial

end Tracks

/-! ### Runs -/

/-- An event determines the state after it. -/
theorem step_deterministic : Run.Deterministic Step := by
  intro s e s₁ s₂ h₁ h₂
  cases h₁ with
  | newConnection _ => cases h₂; rfl
  | testMsg hmsg =>
    cases h₂ with
    | testMsg hmsg' => exact congrArg Prod.fst (Except.ok.inj (hmsg.symm.trans hmsg'))
  | disconnected => cases h₂; rfl
  | pushData => cases h₂; rfl
  | setCallback => cases h₂; rfl

/-- Every run keeps track of the clients. -/
theorem tracks_of_run {tr : List Event} {s : WebsocketServerImplQt} (h : Run Step new tr s) :
    Tracks (view tr) s :=
  h.invariant (fun tr s => Tracks (view tr) s)
    ⟨rfl, List.nodup_nil, fun j p hp => by simp [new] at hp⟩
    fun tr s e s' _ ht hs => by
      rw [view_append_singleton]
      exact ht.step hs

/-- The counts stay attached to the clients along exactly the runs in which a client joins only
where no count was left behind, and leaves only if every count behind its own is that of the next
position. -/
theorem attached_always_iff (tr : List Event) (s : WebsocketServerImplQt)
    (h : Run Step new tr s) :
    Run.Always Step new Attached tr ↔ Run.Each Step new Keeps tr := by
  refine Run.always_iff_each step_deterministic Attached Keeps ?_ ?_ h
  · intro j p n hp
    simp [new] at hp
  · intro tr s e s' hrun hatt hs
    have htracks := tracks_of_run hrun
    rw [htracks.attached_iff] at hatt
    rw [(tracks_of_run (hrun.snoc hs)).attached_iff, view_append_singleton]
    exact htracks.counts_step_iff hatt hs

/-- Two clients, of which the second has seven packets left. -/
def secondReports : List Event :=
  [.newConnection 1, .newConnection 2, .testMsg 2 (some 7) none]

theorem run_secondReports : Run Step new secondReports ⟨[1, 2], 0, [0, 7], false⟩ :=
  ((Run.nil.snoc (.newConnection (by decide))).snoc (.newConnection (by decide))).snoc
    (.testMsg rfl)

theorem attached_always_secondReports :
    Run.Always Step new Attached secondReports ↔ Run.Each Step new Keeps secondReports :=
  attached_always_iff _ _ run_secondReports

/-- The first client leaves.  The second one is the first now, where a 0 stands, though it has seven
packets left. -/
theorem attached_loses_sevenPackets :
    ∃ s, Run Step new (secondReports ++ [.disconnected 1]) s ∧
      s.mClients[0]? = some 2 ∧ s.mClientPendings[0]? = some 0 ∧
      (view (secondReports ++ [.disconnected 1])).count 2 = 7 ∧
      ¬ Attached (secondReports ++ [.disconnected 1]) s := by
  have hrun : Run Step new (secondReports ++ [.disconnected 1]) ⟨[2], 0, [0, 7], false⟩ :=
    run_secondReports.snoc .disconnected
  refine ⟨_, hrun, rfl, rfl, by decide, fun hatt => ?_⟩
  exact absurd (hatt 0 2 0 rfl rfl) (by decide)

end Mvr.WebsocketServerImplQt
