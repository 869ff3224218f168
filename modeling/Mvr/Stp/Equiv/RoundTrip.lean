import Mvr.Stp.Equiv.Basic

/-!
# From `send` to the `recv` of the peer

A text arrives as it was sent if it fits into `recv_buf` together with its final zero.  `send` does
not look at its length: from `STP_MAX_PKG_SIZE` on, up to what a datagram can carry, it reports
success and the peer reads past the end of `recv_buf`.
-/

namespace Mvr.Stp

open JsonCpp Value JsonUtil

variable {Addr : Type}

/-- The manager at the other end: a server for what a client sends, and for what a server sends the
client that waits for the number of the response. -/
structure IsPeer (sender peer : STPManager) : Prop where
  mIsServer : peer.mIsServer = !sender.mIsServer
  mRequestSeq : sender.mIsServer = true → peer.mRequestSeq = sender.mResponseSeq

/-- When the payload is delivered to a call of `recv`, whatever the call was passed over before and
whatever its buffer held, the call returns 0 and the object `value`. -/
def Delivers (json : Library) (peer : STPManager) (payload : List UInt8) (source : Addr)
    (value : Value) : Prop :=
  ∀ (jsonObj : Value) (remote : Option Addr) (before rest : List (RecvBuf × Received Addr))
    (recvBuf : RecvBuf), peer.recv json jsonObj remote before = .ok none →
      ∃ m', peer.recv json jsonObj remote (before ++ (recvBuf, some (source, payload)) :: rest) =
        .ok (some ⟨0, m', value, some source⟩)

/-- The peer accepts what was sent. -/
theorem accept_of_isPeer {sender peer : STPManager} (h : IsPeer sender peer)
    (members : List (String × Value)) (source : Addr) :
    ∃ m', peer.accept (object (insert "__meta__" sender.metaOf members)) source =
      .ok (.returns ⟨0, m', object (insert "__meta__" sender.metaOf members), some source⟩) := by
  unfold STPManager.metaOf
  cases hs : sender.mIsServer with
  | true =>
    have hpeer : peer.mIsServer = false := by
      rw [h.mIsServer, hs]
      rfl
    rw [if_pos rfl, STPManager.accept_response hpeer, if_pos (h.mRequestSeq hs).symm]
    exact ⟨_, rfl⟩
  | false =>
    have hpeer : peer.mIsServer = true := by
      rw [h.mIsServer, hs]
      rfl
    rw [if_neg Bool.false_ne_true, STPManager.accept_request hpeer]
    exact ⟨_, rfl⟩

variable {json : Library} {sender peer : STPManager} {value : Value}

/-- A text that fits into `recv_buf` is delivered. -/
theorem delivers_of_le (hinv : Inverts json value)
    (hsize : (jsonToString json value).length + 1 ≤ stpMaxPkgSize) {source : Addr} {m' : STPManager}
    (haccept : peer.accept value source = .ok (.returns ⟨0, m', value, some source⟩)) :
    Delivers json peer (jsonToString json value ++ [0]) source value := by
  intro jsonObj remote before rest recvBuf hbefore
  obtain ⟨jsonObj', remote', hrest⟩ := STPManager.recv_append hbefore
  refine ⟨m', ?_⟩
  rw [hrest, STPManager.recv, STPManager.recvIteration_eq_accept hinv hsize, haccept]
  rfl

/-- A longer text makes the peer fault, whatever its buffer holds. -/
theorem not_delivers_of_lt (hinv : Inverts json value)
    (hsize : stpMaxPkgSize < (jsonToString json value).length + 1) (source : Addr) :
    ¬ Delivers json peer (jsonToString json value ++ [0]) source value := by
  intro hdelivers
  obtain ⟨m', hrecv⟩ := hdelivers .null none [] [] (Vector.replicate _ 0) rfl
  rw [List.nil_append, STPManager.recv, STPManager.recvIteration_of_lt hinv hsize] at hrecv
  cases hrecv

/-- When `send` has returned 0, the object with its new `__meta__` was handed to the network, and it
is delivered exactly if its text and the final zero fit into `recv_buf`. -/
theorem delivers_send_iff {sendto : (n : ℕ) → Udp.SendtoResult n}
    {members : List (String × Value)} {dest : Addr} {sent : Sent Addr}
    (hsend : sender.send json sendto (object members) (some dest) = .ok sent) (hret : sent.ret = 0)
    (hinv : Inverts json sent.jsonObj) (hpeer : IsPeer sender peer) (source : Addr) :
    sent.jsonObj = object (insert "__meta__" sender.metaOf members) ∧
      ∃ payload, sent.datagram = some (dest, payload) ∧
        (Delivers json peer payload source sent.jsonObj ↔
          (jsonToString json sent.jsonObj).length + 1 ≤ stpMaxPkgSize) := by
  rcases STPManager.send_cases hsend with ⟨hnone, -⟩ | ⟨dest', members', hdest, hmem, -, hobj, hout⟩
  · cases hnone
  · cases hdest
    cases hmem
    refine ⟨hobj, ?_⟩
    rcases hout with ⟨hfail, -⟩ | ⟨-, hdatagram, -⟩
    · rw [hret] at hfail
      exact absurd hfail (by decide)
    · refine ⟨_, hdatagram, ?_⟩
      constructor
      · intro hdelivers
        by_contra hlt
        exact not_delivers_of_lt hinv (Nat.lt_of_not_le hlt) source hdelivers
      · intro hsize
        obtain ⟨m', haccept⟩ := accept_of_isPeer hpeer members source
        rw [← hobj] at haccept
        exact delivers_of_le hinv hsize haccept

/-! ### Objects with a `cmd` -/

/-- The bytes of an ASCII text. -/
def ascii (s : String) : List UInt8 := s.toList.map fun c => c.val.toUInt8

/-- An object with a `__meta__` and a `cmd`. -/
def cmdObject (direction : String) (seq : Int64) (cmd : String) : Value :=
  .object [("__meta__", .object [(direction, .object [("seq", .int seq)])]), ("cmd", .string cmd)]

/-- The text up to the `cmd`, with the indentation of the library's writer. -/
def writeMeta (direction : String) (seq : Int64) : List UInt8 :=
  ascii "\x7b\n\t\"__meta__\" : \n\t\x7b\n\t\t\"" ++ ascii direction ++
    ascii "\" : \n\t\t\x7b\n\t\t\t\"seq\" : " ++ ascii (toString seq) ++
    ascii "\n\t\t\x7d\n\t\x7d,\n\t\"cmd\" : \""

/-- The text of such an object. -/
def writeCmd : Value → List UInt8
  | .object [("__meta__", .object [(direction, .object [("seq", .int seq)])]),
      ("cmd", .string cmd)] => writeMeta direction seq ++ (ascii cmd ++ ascii "\"\n\x7d")
  | _ => []

/-- A library that writes such objects, and reads the texts of some of them. -/
def cmdLibrary (values : List Value) : Library where
  parse text root :=
    match values.find? fun value => writeCmd value = text with
    | some value => (true, value)
    | none => (false, root)
  write := writeCmd
  valueToString _ := ""

theorem inverts_cmdLibrary {values : List Value} (h : 0 ∉ writeCmd value)
    (hfind : values.find? (fun v => writeCmd v = writeCmd value) = some value) :
    Inverts (cmdLibrary values) value := by
  refine ⟨h, fun root => ?_⟩
  show (match values.find? (fun v => writeCmd v = writeCmd value) with
    | some v => (true, v)
    | none => (false, root)) = _
  rw [hfind]

/-- A network that carries whatever fits into a datagram. -/
def carries (n : ℕ) : Udp.SendtoResult n :=
  if h : n ≤ Udp.maxPayload then ⟨n, Or.inr ⟨rfl, h⟩⟩ else ⟨-1, Or.inl rfl⟩

theorem send_carries {m : STPManager} {members : List (String × Value)} {dest : Addr}
    (h : (jsonToString json (object (insert "__meta__" m.metaOf members))).length + 1 ≤
      Udp.maxPayload) :
    m.send json carries (object members) (some dest) =
      .ok { ret := 0
            manager := m.numbered
            jsonObj := object (insert "__meta__" m.metaOf members)
            datagram := some (dest,
              jsonToString json (object (insert "__meta__" m.metaOf members)) ++ [0]) } := by
  unfold STPManager.send
  dsimp only
  rw [STPManager.putMeta_eq_ok (members_object _), Checked.ok_bind]
  refine if_neg ?_
  unfold carries
  rw [List.length_append, List.length_singleton, dif_pos h]
  dsimp only
  omega

/-- What the first `send` of a client leaves. -/
def firstSent (cmd : String) : Sent ℕ where
  ret := 0
  manager := { STPManager.createInstance false with mRequestSeq := 1 }
  jsonObj := cmdObject "request" 1 cmd
  datagram := some (8090, writeCmd (cmdObject "request" 1 cmd) ++ [0])

theorem send_cmd (values : List Value) {cmd : String}
    (h : (writeCmd (cmdObject "request" 1 cmd)).length + 1 ≤ Udp.maxPayload) :
    (STPManager.createInstance false).send (cmdLibrary values) carries
      (object [("cmd", .string cmd)]) (some 8090) = .ok (firstSent cmd) :=
  send_carries h

/-- The request of `stp_util onvif_list` reaches the server. -/
theorem delivers_send_onvifList :
    Delivers (cmdLibrary [cmdObject "request" 1 "onvif_list"]) (STPManager.createInstance true)
      (writeCmd (cmdObject "request" 1 "onvif_list") ++ [0]) 50000
      (cmdObject "request" 1 "onvif_list") := by
  have hinv : Inverts (cmdLibrary [cmdObject "request" 1 "onvif_list"])
      (cmdObject "request" 1 "onvif_list") := inverts_cmdLibrary (by decide) rfl
  obtain ⟨-, payload, hpayload, hiff⟩ := delivers_send_iff (send_cmd _ (by decide +kernel)) rfl hinv
    (show IsPeer _ (STPManager.createInstance true) from ⟨rfl, fun h => absurd h (by decide)⟩) 50000
  cases hpayload
  exact hiff.mpr (by decide +kernel)

/-- A command of 60 KiB. -/
def longCmd : String := String.ofList (List.replicate 61440 'a')

theorem ascii_longCmd : ascii longCmd = List.replicate 61440 97 := by
  unfold ascii longCmd
  rw [String.toList_ofList, List.map_replicate]
  rfl

theorem length_writeCmd_longCmd : (writeCmd (cmdObject "request" 1 longCmd)).length = 61513 := by
  show (writeMeta "request" 1 ++ (ascii longCmd ++ ascii "\"\n\x7d")).length = 61513
  rw [ascii_longCmd, List.length_append, List.length_append, List.length_replicate]
  decide +kernel

theorem zero_notMem_writeCmd_longCmd : 0 ∉ writeCmd (cmdObject "request" 1 longCmd) := by
  show 0 ∉ writeMeta "request" 1 ++ (ascii longCmd ++ ascii "\"\n\x7d")
  rw [List.mem_append, List.mem_append, not_or, not_or]
  refine ⟨by decide, fun hmem => ?_, by decide⟩
  rw [ascii_longCmd] at hmem
  exact absurd (List.eq_of_mem_replicate hmem) (by decide)

/-- A request for this command is sent, but the server does not survive it. -/
theorem not_delivers_send_longCmd :
    (STPManager.createInstance false).send (cmdLibrary [cmdObject "request" 1 longCmd]) carries
      (object [("cmd", .string longCmd)]) (some 8090) = .ok (firstSent longCmd) ∧
    Inverts (cmdLibrary [cmdObject "request" 1 longCmd]) (firstSent longCmd).jsonObj ∧
    IsPeer (STPManager.createInstance false) (STPManager.createInstance true) ∧
    ¬ Delivers (cmdLibrary [cmdObject "request" 1 longCmd]) (STPManager.createInstance true)
      (writeCmd (cmdObject "request" 1 longCmd) ++ [0]) 50000 (firstSent longCmd).jsonObj := by
  have hinv : Inverts (cmdLibrary [cmdObject "request" 1 longCmd])
      (cmdObject "request" 1 longCmd) :=
    inverts_cmdLibrary zero_notMem_writeCmd_longCmd (by simp)
  have hwrite : jsonToString (cmdLibrary [cmdObject "request" 1 longCmd])
      (cmdObject "request" 1 longCmd) = writeCmd (cmdObject "request" 1 longCmd) := rfl
  refine ⟨send_cmd _ ?_, hinv, ⟨rfl, fun h => absurd h (by decide)⟩, not_delivers_of_lt hinv ?_ _⟩
  · rw [length_writeCmd_longCmd]
    decide
  · rw [hwrite, length_writeCmd_longCmd]
    decide

end Mvr.Stp
