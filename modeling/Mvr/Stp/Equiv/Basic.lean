import Mvr.Stp.Basic

/-!
# What `send` and `recv` do

`send` puts a `__meta__` with the next number into the object (`send_cases`).  An iteration of
`recv` that gets the whole text of an object looks at this `__meta__` only: a server takes a request
and remembers its number (`accept_request`), a client takes the response with the number it waits
for and waits on after anything else (`accept_response`, `accept_request_of_client`).
-/

namespace Mvr.Stp

open JsonCpp Value JsonUtil

/-- The `__meta__` of a request. -/
def requestMeta (seq : Int32) : Value :=
  .object [("request", .object [("seq", .int seq.toInt64)])]

/-- The `__meta__` of a response. -/
def responseMeta (seq : Int32) : Value :=
  .object [("response", .object [("seq", .int seq.toInt64)])]

namespace STPManager

variable {Addr : Type} {json : Library} {m : STPManager}

/-- The manager after it has numbered an object. -/
def numbered (m : STPManager) : STPManager :=
  if m.mIsServer then m else { m with mRequestSeq := m.mRequestSeq + 1 }

/-- The `__meta__` that `send` puts into an object. -/
def metaOf (m : STPManager) : Value :=
  if m.mIsServer then responseMeta m.mResponseSeq else requestMeta m.numbered.mRequestSeq

/-! ### `send` -/

theorem assign_direction (dir : String) (members : List (String × Value)) :
    (object (insert "__meta__" null members)).assign ["__meta__", dir] null =
      .ok (object (insert "__meta__" (object [(dir, null)]) members)) := by
  rw [assign_insert]
  rfl

theorem assign_seq (dir : String) (seq : Value) (members : List (String × Value)) :
    (object (insert "__meta__" (object [(dir, null)]) members)).assign
      ["__meta__", dir, "seq"] seq =
      .ok (object (insert "__meta__" (object [(dir, object [("seq", seq)])]) members)) := by
  have hdir : (object [(dir, null)]).assign [dir, "seq"] seq =
      .ok (object [(dir, object [("seq", seq)])]) := by
    have hinsert := assign_insert dir ["seq"] seq null []
    rw [show null.assign ["seq"] seq = .ok (object [("seq", seq)]) from rfl] at hinsert
    exact hinsert
  rw [assign_insert, hdir]
  rfl

/-- Whatever `__meta__` an object has, `send` replaces it. -/
theorem putMeta_eq_ok {jsonObj : Value} {members : List (String × Value)}
    (h : jsonObj.members = .ok members) :
    m.putMeta jsonObj = .ok (m.numbered, object (insert "__meta__" m.metaOf members)) := by
  have hmeta : jsonObj.assign ["__meta__"] null = .ok (object (insert "__meta__" null members)) :=
    assign_cons _ _ _ h
  unfold putMeta metaOf numbered
  rw [hmeta, Checked.ok_bind]
  cases m.mIsServer with
  | true =>
    simp only [if_true, assign_direction, Checked.ok_bind, assign_seq]
    rfl
  | false =>
    simp only [Bool.false_eq_true, if_false, assign_direction, Checked.ok_bind, assign_seq]
    rfl

/-- What a call of `send` can do. -/
theorem send_cases {sendto : (n : ℕ) → Udp.SendtoResult n} {jsonObj : Value} {remote : Option Addr}
    {sent : Sent Addr} (h : m.send json sendto jsonObj remote = .ok sent) :
    (remote = none ∧ sent = ⟨-1, m, jsonObj, none⟩) ∨
    ∃ dest members, remote = some dest ∧ jsonObj.members = .ok members ∧
      sent.manager = m.numbered ∧ sent.jsonObj = object (insert "__meta__" m.metaOf members) ∧
      (sent.ret = -1 ∧ sent.datagram = none ∨
        sent.ret = 0 ∧ sent.datagram = some (dest, jsonToString json sent.jsonObj ++ [0]) ∧
          (jsonToString json sent.jsonObj).length + 1 ≤ Udp.maxPayload) := by
  unfold send at h
  cases remote with
  | none =>
    cases h
    exact Or.inl ⟨rfl, rfl⟩
  | some dest =>
    right
    dsimp only at h
    cases hmem : jsonObj.members with
    | error e =>
      -- `putMeta` stops at its first assignment
      have hput : m.putMeta jsonObj = .error e := by
        unfold putMeta assign update
        rw [hmem]
        rfl
      rw [hput] at h
      cases h
    | ok members =>
      rw [putMeta_eq_ok hmem, Checked.ok_bind] at h
      dsimp only at h
      split_ifs at h with hres
      · cases h
        exact ⟨dest, members, rfl, rfl, rfl, rfl, Or.inl ⟨rfl, rfl⟩⟩
      · cases h
        refine ⟨dest, members, rfl, rfl, rfl, rfl, Or.inr ⟨rfl, rfl, ?_⟩⟩
        generalize jsonToString json (object (insert "__meta__" m.metaOf members)) = text at hres ⊢
        rcases (sendto (text ++ [0]).length).property with hfail | ⟨-, hle⟩
        · omega
        · rw [List.length_append, List.length_singleton] at hle
          exact hle

/-! ### `recv` -/

/-- A server accepts a request. -/
theorem accept_request (hm : m.mIsServer = true) (seq : Int32) (members : List (String × Value))
    (addr : Addr) :
    m.accept (object (insert "__meta__" (requestMeta seq) members)) addr =
      .ok (.returns ⟨0, { m with mResponseSeq := seq },
        object (insert "__meta__" (requestMeta seq) members), some addr⟩) := by
  have hread : (requestMeta seq).read ["request", "seq"] =
      .ok (requestMeta seq, int seq.toInt64) := rfl
  unfold accept
  rw [if_pos hm, read_insert, hread]
  show (int seq.toInt64).asInt >>= _ = _
  rw [asInt_int]
  rfl

/-- A client accepts the response with its number. -/
theorem accept_response (hm : m.mIsServer = false) (seq : Int32) (members : List (String × Value))
    (addr : Addr) :
    m.accept (object (insert "__meta__" (responseMeta seq) members)) addr =
      .ok (if seq = m.mRequestSeq then
        .returns ⟨0, m, object (insert "__meta__" (responseMeta seq) members), some addr⟩
      else
        .again (object (insert "__meta__" (responseMeta seq) members)) (some addr)) := by
  have hread : (responseMeta seq).read ["response", "seq"] =
      .ok (responseMeta seq, int seq.toInt64) := rfl
  unfold accept
  rw [if_neg (by rw [hm]; simp), read_insert, hread]
  show (if (int seq.toInt64).neInt m.mRequestSeq = true then _ else _) = _
  by_cases hseq : seq = m.mRequestSeq
  · rw [if_pos hseq, if_neg (by rw [Bool.not_eq_true, neInt_eq_false_iff, hseq])]
    rfl
  · have hne : (int seq.toInt64).neInt m.mRequestSeq = true := by
      rw [← Bool.not_eq_false, neInt_eq_false_iff]
      intro heq
      injection heq with heq
      exact hseq (by simpa using congrArg Int64.toInt32 heq)
    rw [if_neg hseq, if_pos hne]
    rfl

/-- A request has no number a client could wait for. -/
theorem accept_request_of_client (hm : m.mIsServer = false) (seq : Int32)
    (members : List (String × Value)) (addr : Addr) :
    ∃ jsonObj, m.accept (object (insert "__meta__" (requestMeta seq) members)) addr =
      .ok (.again jsonObj (some addr)) := by
  have hread : (requestMeta seq).read ["response", "seq"] =
      .ok (object [("request", object [("seq", int seq.toInt64)]),
        ("response", object [("seq", null)])], null) := rfl
  unfold accept
  rw [if_neg (by rw [hm]; simp), read_insert, hread]
  exact ⟨_, rfl⟩

variable {value : Value}

/-- The text of a value that fits into `recv_buf` is received as the value. -/
theorem recvIteration_eq_accept (h : Inverts json value)
    (hsize : (jsonToString json value).length + 1 ≤ stpMaxPkgSize) (jsonObj : Value)
    (remote : Option Addr) (recvBuf : RecvBuf) (addr : Addr) :
    m.recvIteration json jsonObj remote recvBuf (some (addr, jsonToString json value ++ [0])) =
      m.accept value addr := by
  have hnum : 0 < Udp.recvNum stpMaxPkgSize (jsonToString json value ++ [0]) := by
    unfold Udp.recvNum
    rw [List.length_append, List.length_singleton]
    omega
  unfold recvIteration
  dsimp only
  rw [if_pos hnum, Udp.cString_recvfrom h.noZero hsize, Checked.ok_bind, h.parse]
  rfl

/-- The text of a value that does not fit is read past the end of `recv_buf`. -/
theorem recvIteration_of_lt (h : Inverts json value)
    (hsize : stpMaxPkgSize < (jsonToString json value).length + 1) (jsonObj : Value)
    (remote : Option Addr) (recvBuf : RecvBuf) (addr : Addr) :
    m.recvIteration json jsonObj remote recvBuf (some (addr, jsonToString json value ++ [0])) =
      .error (.outOfBounds stpMaxPkgSize) := by
  have hnum : 0 < Udp.recvNum stpMaxPkgSize (jsonToString json value ++ [0]) := by
    unfold Udp.recvNum stpMaxPkgSize
    rw [List.length_append, List.length_singleton]
    omega
  unfold recvIteration
  dsimp only
  rw [if_pos hnum, Udp.cString_recvfrom_of_lt h.noZero hsize]
  rfl

/-- The text of a value is received as the value, if `recv` does not fault. -/
theorem accept_of_recvIteration (hinv : Inverts json value) {jsonObj : Value} {remote : Option Addr}
    {recvBuf : RecvBuf} {addr : Addr} {iteration : Iteration Addr}
    (h : m.recvIteration json jsonObj remote recvBuf
      (some (addr, jsonToString json value ++ [0])) = .ok iteration) :
    m.accept value addr = .ok iteration := by
  rcases Nat.lt_or_ge stpMaxPkgSize ((jsonToString json value).length + 1) with hlt | hle
  · rw [recvIteration_of_lt hinv hlt] at h
    cases h
  · rw [recvIteration_eq_accept hinv hle] at h
    exact h

/-- A client's `recv` leaves the manager alone. -/
theorem manager_of_recvIteration (hm : m.mIsServer = false) {jsonObj : Value}
    {remote : Option Addr} {recvBuf : RecvBuf} {received : Received Addr} {r : Returned Addr}
    (h : m.recvIteration json jsonObj remote recvBuf received = .ok (.returns r)) :
    r.manager = m := by
  unfold recvIteration at h
  cases received with
  | none =>
    cases h
    rfl
  | some p =>
    obtain ⟨addr, payload⟩ := p
    dsimp only at h
    split_ifs at h
    · rw [Checked.bind_eq_ok] at h
      obtain ⟨str, -, h⟩ := h
      split_ifs at h
      · unfold accept at h
        rw [if_neg (by rw [hm]; simp), Checked.bind_eq_ok] at h
        obtain ⟨⟨jsonObj', seq⟩, -, h⟩ := h
        dsimp only at h
        split_ifs at h <;> cases h
        rfl
      · cases h
        rfl
    · cases h
      rfl

/-- What arrives while `recv` waits only changes the caller's object and remote point. -/
theorem recv_append {before : List (RecvBuf × Received Addr)} {jsonObj : Value}
    {remote : Option Addr} (h : m.recv json jsonObj remote before = .ok none) :
    ∃ jsonObj' remote', ∀ rest,
      m.recv json jsonObj remote (before ++ rest) = m.recv json jsonObj' remote' rest := by
  induction before generalizing jsonObj remote with
  | nil => exact ⟨jsonObj, remote, fun _ => rfl⟩
  | cons r before ih =>
    obtain ⟨recvBuf, received⟩ := r
    unfold recv at h
    rw [Checked.bind_eq_ok] at h
    obtain ⟨iteration, hiter, h⟩ := h
    cases iteration with
    | returns r => cases h
    | again jsonObj₁ remote₁ =>
      obtain ⟨jsonObj', remote', hrest⟩ := ih h
      refine ⟨jsonObj', remote', fun rest => ?_⟩
      rw [← hrest rest, List.cons_append]
      conv_lhs => unfold recv
      rw [hiter]
      rfl

end STPManager

end Mvr.Stp
