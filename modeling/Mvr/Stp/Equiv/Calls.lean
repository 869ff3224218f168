import Mvr.Stp.Equiv.RoundTrip

/-!
# Single calls of `recv` and `send`

* `recv_total_iff`: a server's `recv` survives a JSON value exactly if `__meta__.request.seq` can be
  looked up in it and converted to `int`.
* `recv_dependsOnPayload_iff`: `recv` depends on nothing but the datagram exactly if there is a zero
  in it.
* `failed_leavesNoTrace_iff`: when a call returns -1 the manager and the caller's object are as
  before exactly if `send` had no remote point, or repeats the `__meta__` of the object, or if what
  `recv` parsed before it gave up made the object what it was.
-/

namespace Mvr.Stp

open JsonCpp Value JsonUtil

namespace STPManager

variable {Addr : Type} {json : Library} {m : STPManager}

/-! ### Every JSON value -/

/-- The path of the number that `recv` looks at. -/
def seqPath (m : STPManager) : List String :=
  if m.mIsServer then ["__meta__", "request", "seq"] else ["__meta__", "response", "seq"]

/-- The number of a request can be looked up: the value, its `__meta__` and the `request` therein
are objects or null, and the `seq` is null or a number within `int`; anything absent is null. -/
def HasRequestSeq (value : Value) : Prop :=
  ∃ seq, value.at? ["__meta__", "request", "seq"] = some seq ∧ seq.IsInt

/-- A call of `recv` returns 0 or -1, and after 0 `m_response_seq` is the integer at
`__meta__.request.seq` of the value, 0 if it is absent. -/
def ReceivesTotal (value : Value) (result : Checked (Option (Returned Addr))) : Prop :=
  ∃ r, result = .ok (some r) ∧ (r.ret = 0 ∨ r.ret = -1) ∧
    (r.ret = 0 → ∃ seq, value.at? ["__meta__", "request", "seq"] = some seq ∧
      seq.asInt = .ok r.manager.mResponseSeq)

/-- A received text that is parsed is handed on as its value. -/
theorem recvIteration_of_parse {recvBuf : RecvBuf} {payload text : List UInt8}
    (hne : payload ≠ []) (htext : Udp.cString (Udp.recvfrom recvBuf payload) = .ok text)
    {jsonObj value : Value} (hparse : parseJson json text jsonObj = (true, value))
    (remote : Option Addr) (addr : Addr) :
    m.recvIteration json jsonObj remote recvBuf (some (addr, payload)) = m.accept value addr := by
  have hnum : 0 < Udp.recvNum stpMaxPkgSize payload := by
    have hpos := List.length_pos_iff.mpr hne
    unfold Udp.recvNum stpMaxPkgSize
    omega
  unfold recvIteration
  dsimp only
  rw [if_pos hnum, htext, Checked.ok_bind, hparse]
  rfl

/-- A server accepts a value if the number can be looked up, and fails otherwise. -/
theorem accept_isOk_iff (hm : m.mIsServer = true) (value : Value) (addr : Addr) :
    (m.accept value addr).IsOk ↔ HasRequestSeq value := by
  unfold accept HasRequestSeq
  rw [if_pos hm, Checked.isOk_bind_iff]
  constructor
  · rintro ⟨⟨value', seq⟩, hread, hok⟩
    obtain ⟨n, hn, -⟩ := Checked.isOk_bind_iff.mp hok
    exact ⟨seq, read_eq_ok_iff.mp ⟨value', hread⟩, asInt_isOk_iff.mp ⟨n, hn⟩⟩
  · rintro ⟨seq, hat, hint⟩
    obtain ⟨value', hread⟩ := read_eq_ok_iff.mpr hat
    obtain ⟨n, hn⟩ := asInt_isOk_iff.mpr hint
    refine ⟨(value', seq), hread, ?_⟩
    rw [Checked.isOk_bind_iff]
    exact ⟨n, hn, Checked.isOk_pure _⟩

/-- What a server that accepts a value returns. -/
theorem accept_eq_ok (hm : m.mIsServer = true) {value : Value} {addr : Addr}
    {iteration : Iteration Addr} (h : m.accept value addr = .ok iteration) :
    ∃ value' seq n, value.read ["__meta__", "request", "seq"] = .ok (value', seq) ∧
      seq.asInt = .ok n ∧
      iteration = .returns ⟨0, { m with mResponseSeq := n }, value', some addr⟩ := by
  unfold accept at h
  rw [if_pos hm, Checked.bind_eq_ok] at h
  obtain ⟨⟨value', seq⟩, hread, h⟩ := h
  obtain ⟨n, hn, h⟩ := Checked.bind_eq_ok.mp h
  exact ⟨value', seq, n, hread, hn, (Except.ok.inj h).symm⟩

/-- When a server receives a text that is parsed, `recv` returns, and with the right number,
exactly if the number can be looked up in the value. -/
theorem recv_total_iff (hm : m.mIsServer = true) {recvBuf : RecvBuf} {payload text : List UInt8}
    (hne : payload ≠ []) (htext : Udp.cString (Udp.recvfrom recvBuf payload) = .ok text)
    {jsonObj value : Value} (hparse : parseJson json text jsonObj = (true, value))
    (remote : Option Addr) (addr : Addr) (rest : List (RecvBuf × Received Addr)) :
    ReceivesTotal value
        (m.recv json jsonObj remote ((recvBuf, some (addr, payload)) :: rest)) ↔
      HasRequestSeq value := by
  rw [← accept_isOk_iff hm value addr]
  unfold recv ReceivesTotal
  rw [recvIteration_of_parse hne htext hparse]
  constructor
  · rintro ⟨r, hr, -⟩
    obtain ⟨iteration, hiter, -⟩ := Checked.bind_eq_ok.mp hr
    exact ⟨iteration, hiter⟩
  · rintro ⟨iteration, hiter⟩
    obtain ⟨value', seq, n, hread, hn, rfl⟩ := accept_eq_ok hm hiter
    rw [hiter]
    refine ⟨_, rfl, Or.inl rfl, fun _ => ⟨seq, ?_, hn⟩⟩
    exact read_eq_ok_iff.mp ⟨value', hread⟩

/-- The server returns after a request of `stp_util`. -/
theorem recv_total_ptz :
    ReceivesTotal (cmdObject "request" 1 "ptz")
      ((createInstance true).recv (cmdLibrary [cmdObject "request" 1 "ptz"]) .null none
        [(Vector.replicate _ 0,
          some (50000, writeCmd (cmdObject "request" 1 "ptz") ++ [0]))]) :=
  have hinv : Inverts (cmdLibrary [cmdObject "request" 1 "ptz"]) (cmdObject "request" 1 "ptz") :=
    inverts_cmdLibrary (by decide) rfl
  (recv_total_iff rfl (by decide)
    (Udp.cString_recvfrom hinv.noZero (by decide +kernel) (Vector.replicate _ 0))
    (hinv.parse .null) none 50000 []).mpr ⟨.int 1, rfl, by unfold IsInt; decide⟩

/-- A library that reads the text `5`. -/
def fiveLibrary : Library where
  parse text root := if text = [53] then (true, .int 5) else (false, root)
  write _ := []
  valueToString _ := ""

/-- A datagram with the text `5` ends the server. -/
theorem recv_five :
    Udp.cString (Udp.recvfrom (Vector.replicate stpMaxPkgSize 0) [53, 0]) = .ok [53] ∧
    parseJson fiveLibrary [53] .null = (true, .int 5) ∧
    (createInstance true).recv fiveLibrary .null none
      [(Vector.replicate _ 0, some (50000, [53, 0]))] = .error logicError ∧
    ¬ ReceivesTotal (.int 5) ((createInstance true).recv fiveLibrary .null none
      [(Vector.replicate _ 0, some (50000, [53, 0]))]) := by
  have htext : Udp.cString (Udp.recvfrom (Vector.replicate stpMaxPkgSize 0) [53, 0]) = .ok [53] :=
    Udp.cString_recvfrom (by decide : (0 : UInt8) ∉ [53]) (by decide) _
  have hparse : parseJson fiveLibrary [53] .null = (true, .int 5) := rfl
  have hrecv : (createInstance true).recv fiveLibrary .null none
      [(Vector.replicate _ 0, some (50000, [53, 0]))] = .error logicError := by
    unfold recv
    rw [recvIteration_of_parse (by decide) htext hparse]
    rfl
  refine ⟨htext, hparse, hrecv, ?_⟩
  rintro ⟨r, hr, -⟩
  rw [hrecv] at hr
  cases hr

/-! ### The prior contents of the buffer -/

/-- `recv` parses the bytes of the datagram up to the first zero among them, whatever `recv_buf`
held, and so returns the same. -/
structure DependsOnPayload (Addr : Type) (payload : List UInt8) : Prop where
  text : ∀ recvBuf : RecvBuf,
    Udp.cString (Udp.recvfrom recvBuf payload) = .ok (payload.takeWhile (· ≠ 0))
  result : ∀ (recvBuf recvBuf' : RecvBuf) (json : Library) (m : STPManager) (jsonObj : Value)
    (remote : Option Addr) (addr : Addr) (rest : List (RecvBuf × Received Addr)),
    m.recv json jsonObj remote ((recvBuf, some (addr, payload)) :: rest) =
      m.recv json jsonObj remote ((recvBuf', some (addr, payload)) :: rest)

/-- What `recv` makes of a datagram depends on nothing else exactly if there is a zero in it. -/
theorem recv_dependsOnPayload_iff {payload : List UInt8} (hsize : payload.length ≤ stpMaxPkgSize) :
    DependsOnPayload Addr payload ↔ 0 ∈ payload := by
  constructor
  · intro h
    by_contra hzero
    -- residue without a zero
    have hbuf : (0 : UInt8) ∉ (Vector.replicate stpMaxPkgSize 32).toList := by
      intro hmem
      rw [Vector.toList_replicate] at hmem
      exact absurd (List.eq_of_mem_replicate hmem) (by decide)
    have htext := h.text (Vector.replicate stpMaxPkgSize 32)
    rw [Udp.cString_recvfrom_of_notMem hzero hbuf] at htext
    cases htext
  · intro hzero
    have htext := Udp.cString_recvfrom_of_mem hzero hsize
    refine ⟨htext, fun recvBuf recvBuf' json m jsonObj remote addr rest => ?_⟩
    unfold recv recvIteration
    dsimp only
    rw [htext, htext]

/-- A request of `stp_util` comes with its zero. -/
theorem recv_dependsOnPayload_ptz :
    DependsOnPayload ℕ (writeCmd (cmdObject "request" 1 "ptz") ++ [0]) :=
  (recv_dependsOnPayload_iff (by decide +kernel)).mpr (by simp)

/-- The text `{}` comes without a zero after the text `{} 5`: the two are read as one. -/
theorem not_dependsOnPayload_braces :
    Udp.cString (Udp.recvfrom (Udp.recvfrom (Vector.replicate stpMaxPkgSize 0)
      ([123, 125, 32, 53] ++ [0])) [123, 125]) = .ok [123, 125, 32, 53] ∧
    ¬ DependsOnPayload ℕ [123, 125] := by
  have htext : Udp.cString (Udp.recvfrom (Udp.recvfrom (Vector.replicate stpMaxPkgSize 0)
      ([123, 125, 32, 53] ++ [0])) [123, 125]) = .ok [123, 125, 32, 53] := by
    rw [Udp.recvfrom_recvfrom (by decide) (by decide)]
    exact Udp.cString_recvfrom (by decide : (0 : UInt8) ∉ [123, 125, 32, 53]) (by decide) _
  refine ⟨htext, fun h => ?_⟩
  rw [h.text] at htext
  exact absurd (Except.ok.inj htext) (by decide)

/-! ### Failed calls -/

/-- The manager and the caller's object are as before. -/
def NoTrace (m : STPManager) (jsonObj : Value) (m' : STPManager) (jsonObj' : Value) : Prop :=
  m' = m ∧ jsonObj' = jsonObj

/-- The object already has this `__meta__`. -/
def HoldsMeta (jsonObj newMeta : Value) : Prop :=
  ∃ members, jsonObj = object members ∧ insert "__meta__" newMeta members = members

/-- The text that an answer of `recvfrom` gives to `ParseJson`, if it gives one. -/
def textOf (answer : RecvBuf × Received Addr) : Option (List UInt8) :=
  match answer with
  | (_, none) => none
  | (recvBuf, some (_, payload)) =>
    if 0 < Udp.recvNum stpMaxPkgSize payload then
      (Udp.cString (Udp.recvfrom recvBuf payload)).toOption
    else
      none

/-- The object after `ParseJson` of a text into it, and after the number was looked up in what was
parsed. -/
def parsedInto (json : Library) (m : STPManager) (jsonObj : Value) (text : List UInt8) : Value :=
  match parseJson json text jsonObj with
  | (true, value) => ((value.read m.seqPath).toOption.map Prod.fst).getD value
  | (false, value) => value

/-- The object after `ParseJson` of all the texts that were received. -/
def parsedAll (json : Library) (m : STPManager) (jsonObj : Value)
    (answers : List (RecvBuf × Received Addr)) : Value :=
  (answers.filterMap textOf).foldl (parsedInto json m) jsonObj

/-- Nothing was parsed, or what the last text is parsed as is the object there was before. -/
def Restores (json : Library) (m : STPManager) (jsonObj : Value)
    (answers : List (RecvBuf × Received Addr)) : Prop :=
  answers.filterMap textOf = [] ∨
    ∃ texts text, answers.filterMap textOf = texts ++ [text] ∧
      parsedInto json m (texts.foldl (parsedInto json m) jsonObj) text = jsonObj

/-- The object an iteration leaves. -/
def iterationObj : Iteration Addr → Value
  | .again jsonObj _ => jsonObj
  | .returns r => r.jsonObj

theorem parsedAll_eq_self_iff {jsonObj : Value} {answers : List (RecvBuf × Received Addr)} :
    parsedAll json m jsonObj answers = jsonObj ↔ Restores json m jsonObj answers := by
  unfold parsedAll Restores
  rcases List.eq_nil_or_concat (answers.filterMap textOf) with hnil | ⟨texts, text, hlast⟩
  · rw [hnil]
    exact iff_of_true rfl (Or.inl rfl)
  · rw [hlast, List.concat_eq_append, List.foldl_append, List.foldl_cons, List.foldl_nil]
    constructor
    · intro h
      exact Or.inr ⟨texts, text, rfl, h⟩
    · rintro (hnil | ⟨texts', text', heq, h⟩)
      · simp at hnil
      · obtain ⟨rfl, htext⟩ := List.append_inj' heq rfl
        rw [List.singleton_inj.mp htext]
        exact h

theorem numbered_eq_self_iff : m.numbered = m ↔ m.mIsServer = true := by
  unfold numbered
  split_ifs with hm
  · exact iff_of_true rfl hm
  · refine iff_of_false (fun h => ?_) hm
    have hseq : m.mRequestSeq + 1 = m.mRequestSeq := congrArg mRequestSeq h
    rw [Int32.add_eq_left] at hseq
    exact absurd hseq (by decide)

/-- A `send` that fails leaves no trace if it had no remote point, or if it is that of a server and
the object had the `__meta__` that it puts there. -/
theorem send_noTrace_iff {sendto : (n : ℕ) → Udp.SendtoResult n} {jsonObj : Value}
    {remote : Option Addr} {sent : Sent Addr} (h : m.send json sendto jsonObj remote = .ok sent)
    (hret : sent.ret = -1) :
    NoTrace m jsonObj sent.manager sent.jsonObj ↔
      remote = none ∨ m.mIsServer = true ∧ HoldsMeta jsonObj (responseMeta m.mResponseSeq) := by
  rcases send_cases h with ⟨rfl, rfl⟩ | ⟨dest, members, rfl, hmem, hman, hobj, -⟩
  · exact iff_of_true ⟨rfl, rfl⟩ (Or.inl rfl)
  · unfold NoTrace HoldsMeta
    rw [hman, hobj, numbered_eq_self_iff]
    constructor
    · rintro ⟨hm, heq⟩
      rw [metaOf, if_pos hm] at heq
      refine Or.inr ⟨hm, members, ?_⟩
      subst heq
      have hmembers := Except.ok.inj hmem
      exact ⟨congrArg object hmembers, hmembers⟩
    · rintro (hnone | ⟨hm, members', rfl, hinsert⟩)
      · cases hnone
      · obtain rfl : members' = members := Except.ok.inj hmem
        rw [metaOf, if_pos hm, hinsert]
        exact ⟨hm, rfl⟩

/-- What `accept` leaves in the object: the value, after the number was looked up in it. -/
theorem read_of_accept {value : Value} {addr : Addr} {iteration : Iteration Addr}
    (h : m.accept value addr = .ok iteration) :
    ∃ seq, value.read m.seqPath = .ok (iterationObj iteration, seq) := by
  cases hm : m.mIsServer with
  | true =>
    obtain ⟨value', seq, n, hread, -, rfl⟩ := accept_eq_ok hm h
    rw [seqPath, if_pos hm]
    exact ⟨seq, hread⟩
  | false =>
    unfold accept at h
    rw [if_neg (by rw [hm]; exact Bool.false_ne_true)] at h
    obtain ⟨⟨value', seq⟩, hread, h⟩ := Checked.bind_eq_ok.mp h
    rw [seqPath, if_neg (by rw [hm]; exact Bool.false_ne_true), hread]
    refine ⟨seq, ?_⟩
    dsimp only at h
    split_ifs at h <;> cases h <;> rfl

/-- What an iteration leaves in the object. -/
theorem obj_of_recvIteration {jsonObj : Value} {remote : Option Addr}
    {answer : RecvBuf × Received Addr} {iteration : Iteration Addr}
    (h : m.recvIteration json jsonObj remote answer.1 answer.2 = .ok iteration) :
    iterationObj iteration = parsedAll json m jsonObj [answer] := by
  obtain ⟨recvBuf, received⟩ := answer
  unfold recvIteration at h
  cases received with
  | none =>
    cases h
    rfl
  | some p =>
    obtain ⟨addr, payload⟩ := p
    dsimp only at h
    split_ifs at h with hnum
    · obtain ⟨text, htext, h⟩ := Checked.bind_eq_ok.mp h
      have hall : parsedAll json m jsonObj [(recvBuf, some (addr, payload))] =
          parsedInto json m jsonObj text := by
        unfold parsedAll textOf
        simp [hnum, htext, Except.toOption]
      rw [hall]
      unfold parsedInto
      cases hparse : parseJson json text jsonObj with
      | mk res value =>
      rw [hparse] at h
      cases res with
      | false =>
        cases h
        rfl
      | true =>
        obtain ⟨seq, hread⟩ := read_of_accept (show m.accept value addr = .ok iteration from h)
        show _ = ((value.read m.seqPath).toOption.map Prod.fst).getD value
        rw [hread]
        rfl
    · cases h
      unfold parsedAll textOf
      simp [hnum, iterationObj]

/-- A failing iteration leaves the manager alone. -/
theorem manager_of_recvIteration_failed {jsonObj : Value} {remote : Option Addr}
    {answer : RecvBuf × Received Addr} {r : Returned Addr}
    (h : m.recvIteration json jsonObj remote answer.1 answer.2 = .ok (.returns r))
    (hret : r.ret = -1) : r.manager = m := by
  cases hm : m.mIsServer with
  | false => exact manager_of_recvIteration hm h
  | true =>
    unfold recvIteration at h
    split at h
    · cases h
      rfl
    · split_ifs at h
      · obtain ⟨text, -, h⟩ := Checked.bind_eq_ok.mp h
        dsimp only at h
        split_ifs at h
        · -- a server that accepts returns 0
          obtain ⟨value', seq, n, -, -, heq⟩ := accept_eq_ok hm h
          cases heq
          exact absurd (show (0 : Int32) = -1 from hret) (by decide)
        · cases h
          rfl
      · cases h
        rfl

/-- What a call of `recv` leaves, after all that `recvfrom` answered in it.  Induction on the
answers. -/
theorem recv_leaves {before : List (RecvBuf × Received Addr)} {last : RecvBuf × Received Addr}
    {jsonObj : Value} {remote : Option Addr}
    (hbefore : m.recv json jsonObj remote before = .ok none) {r : Returned Addr}
    (h : m.recv json jsonObj remote (before ++ [last]) = .ok (some r)) :
    r.jsonObj = parsedAll json m jsonObj (before ++ [last]) ∧ (r.ret = -1 → r.manager = m) := by
  induction before generalizing jsonObj remote with
  | nil =>
    unfold recv at h
    obtain ⟨iteration, hiter, h⟩ := Checked.bind_eq_ok.mp h
    cases iteration with
    | again _ _ => cases h
    | returns r' =>
      cases h
      exact ⟨obj_of_recvIteration hiter, manager_of_recvIteration_failed hiter⟩
  | cons answer before ih =>
    rw [List.cons_append] at h ⊢
    unfold recv at h hbefore
    obtain ⟨iteration, hiter, h⟩ := Checked.bind_eq_ok.mp h
    rw [hiter, Checked.ok_bind] at hbefore
    cases iteration with
    | returns _ => cases hbefore
    | again jsonObj' remote' =>
      obtain ⟨hobj, hman⟩ := ih hbefore h
      refine ⟨?_, hman⟩
      have hfirst : jsonObj' = parsedAll json m jsonObj [answer] := obj_of_recvIteration hiter
      rw [hobj, hfirst]
      unfold parsedAll
      rw [← List.foldl_append, ← List.filterMap_append, List.singleton_append]

/-- A failed call leaves no trace: in a failed `send` exactly if there was no remote point, or the
manager is a server and the object had the `__meta__` it puts there; in a failed `recv` exactly if
nothing was parsed before it gave up, or the last text that was gives the object back. -/
theorem failed_leavesNoTrace_iff (m : STPManager) (json : Library) (jsonObj : Value)
    (remote : Option Addr) :
    (∀ (sendto : (n : ℕ) → Udp.SendtoResult n) (sent : Sent Addr),
      m.send json sendto jsonObj remote = .ok sent → sent.ret = -1 →
        (NoTrace m jsonObj sent.manager sent.jsonObj ↔
          remote = none ∨ m.mIsServer = true ∧ HoldsMeta jsonObj (responseMeta m.mResponseSeq))) ∧
    ∀ (before : List (RecvBuf × Received Addr)) (last : RecvBuf × Received Addr)
      (r : Returned Addr), m.recv json jsonObj remote before = .ok none →
      m.recv json jsonObj remote (before ++ [last]) = .ok (some r) → r.ret = -1 →
        (NoTrace m jsonObj r.manager r.jsonObj ↔ Restores json m jsonObj (before ++ [last])) := by
  refine ⟨fun sendto sent h hret => send_noTrace_iff h hret, ?_⟩
  intro before last r hbefore h hret
  obtain ⟨hobj, hman⟩ := recv_leaves hbefore h
  unfold NoTrace
  rw [hman hret, hobj, parsedAll_eq_self_iff]
  exact ⟨fun h => h.2, fun h => ⟨rfl, h⟩⟩

/-- A `send` to nobody and a `recv` that nothing reaches. -/
theorem failed_leavesNoTrace_nobody :
    NoTrace (createInstance false) .null (createInstance false) .null ∧
    ∃ r, (createInstance false).recv fiveLibrary .null (none : Option ℕ)
        [(Vector.replicate _ 0, none)] = .ok (some r) ∧
      NoTrace (createInstance false) .null r.manager r.jsonObj :=
  have hboth := failed_leavesNoTrace_iff (createInstance false) fiveLibrary .null (none : Option ℕ)
  ⟨(hboth.1 (fun _ => ⟨-1, Or.inl rfl⟩) ⟨-1, _, _, none⟩ rfl rfl).mpr (Or.inl rfl),
    ⟨-1, createInstance false, .null, none⟩, rfl,
    (hboth.2 [] (Vector.replicate _ 0, none) _ rfl rfl rfl).mpr (Or.inl rfl)⟩

/-- A library that reads the text `{}`. -/
def bracesLibrary : Library where
  parse text root := if text = [123, 125] then (true, .object []) else (false, root)
  write _ := []
  valueToString _ := ""

/-- What a client makes of this text. -/
def bracesLooked : Value :=
  .object [("__meta__", .object [("response", .object [("seq", .null)])])]

/-- A client that has sent one request. -/
def askedOnce : STPManager := { createInstance false with mRequestSeq := 1 }

/-- A client whose `sendto` fails does not accept the response to its last request any more; a
client that receives `{}` before its time is over returns -1 with another object. -/
theorem failed_leavesTrace :
    (∃ sent, askedOnce.send bracesLibrary (fun _ => ⟨-1, Or.inl rfl⟩) (.object []) (some 8090) =
        .ok sent ∧ sent.ret = -1 ∧
      ¬ NoTrace askedOnce (.object []) sent.manager sent.jsonObj ∧
      ∃ jsonObj, sent.manager.accept (object (insert "__meta__" (responseMeta 1) [])) 8090 =
        .ok (.again jsonObj (some 8090))) ∧
    ∃ r, askedOnce.recv bracesLibrary .null none
        [(Vector.replicate _ 0, some (8090, [123, 125] ++ [0])), (Vector.replicate _ 0, none)] =
          .ok (some r) ∧ r.ret = -1 ∧
      ¬ NoTrace askedOnce .null r.manager r.jsonObj := by
  constructor
  · refine ⟨_, rfl, rfl, ?_, ?_⟩
    · rintro ⟨hman, -⟩
      exact absurd (congrArg mRequestSeq hman) (by decide)
    · rw [accept_response rfl]
      exact ⟨_, rfl⟩
  · have htext : Udp.cString (Udp.recvfrom (Vector.replicate stpMaxPkgSize 0)
        ([123, 125] ++ [0])) = .ok [123, 125] :=
      Udp.cString_recvfrom (by decide : (0 : UInt8) ∉ [123, 125]) (by decide) _
    have hskip : askedOnce.recvIteration bracesLibrary .null none (Vector.replicate _ 0)
        (some (8090, [123, 125] ++ [0])) = .ok (.again bracesLooked (some 8090)) := by
      rw [recvIteration_of_parse (by decide) htext
        (show parseJson bracesLibrary [123, 125] .null = (true, .object []) from rfl)]
      rfl
    refine ⟨⟨-1, askedOnce, bracesLooked, some 8090⟩, ?_, rfl, ?_⟩
    · unfold recv
      rw [hskip]
      rfl
    · rintro ⟨-, hobj⟩
      cases hobj

end STPManager

end Mvr.Stp
