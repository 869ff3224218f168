import Mvr.JsonCpp.Basic
import Mvr.Udp.Basic

/-!
# `STPManager`

Requests and responses as JSON texts in datagrams.  `send` puts a `__meta__` into the object it is
given: a client numbers its requests, a server repeats the number of the request it received last.
`recv` waits for a datagram; a client goes on waiting as long as the number is not that of its last
request.

`sendto` and `recvfrom` answer what the network makes of them: their results are parameters, like
the bytes that are in `recv_buf` before anything is received.  The socket, its timeouts and the
printing are left out.
-/

namespace Mvr

open JsonCpp

namespace JsonUtil

/-- `ParseJson` of a string, into a root that holds a value. -/
def parseJson (json : Library) (str : List UInt8) (root : Value) : Bool × Value :=
  json.parse str root

/-- `JsonToString`. -/
def jsonToString (json : Library) (jsonObj : Value) : List UInt8 := json.write jsonObj

/-- `ParseJson` inverts `JsonToString` on a value: the text has no zero byte in it, and is parsed as
the value whatever the root held before. -/
structure Inverts (json : Library) (value : Value) : Prop where
  noZero : 0 ∉ jsonToString json value
  parse : ∀ root, parseJson json (jsonToString json value) root = (true, value)

end JsonUtil

namespace Stp

/-- `STP_MAX_PKG_SIZE`. -/
def stpMaxPkgSize : ℕ := 60 * 1024

/-- `STPManager`. -/
structure STPManager where
  mRequestSeq : Int32
  mResponseSeq : Int32
  mIsServer : Bool
  deriving DecidableEq, Repr

/-- The `recv_buf` of a call of `recv`. -/
abbrev RecvBuf := Vector UInt8 stpMaxPkgSize

/-- What `recvfrom` answers: the sender and the payload of a datagram, or nothing for a timeout. -/
abbrev Received (Addr : Type) := Option (Addr × List UInt8)

/-- What `send` leaves: its result, the manager, the caller's object, and the datagram that was
handed to the network. -/
structure Sent (Addr : Type) where
  ret : Int32
  manager : STPManager
  jsonObj : Value
  datagram : Option (Addr × List UInt8)

/-- What `recv` leaves: its result, the manager, and the caller's object and remote point, the
latter `none` as long as nothing was written to it. -/
structure Returned (Addr : Type) where
  ret : Int32
  manager : STPManager
  jsonObj : Value
  remote : Option Addr

/-- What an iteration of the loop of `recv` comes to. -/
inductive Iteration (Addr : Type) where
  | again (jsonObj : Value) (remote : Option Addr)
  | returns (r : Returned Addr)

namespace STPManager

variable {Addr : Type}

/-- `createServerInstance` and `createClientInstance`. -/
def createInstance (isServer : Bool) : STPManager where
  mRequestSeq := 0
  mResponseSeq := 0
  mIsServer := isServer

/-- The part of `send` that fills in `__meta__`. -/
def putMeta (m : STPManager) (jsonObj : Value) : Checked (STPManager × Value) := do
  let jsonObj ← jsonObj.assign ["__meta__"] .null
  if m.mIsServer then
    let jsonObj ← jsonObj.assign ["__meta__", "response"] .null
    let jsonObj ← jsonObj.assign ["__meta__", "response", "seq"] (.int m.mResponseSeq.toInt64)
    pure (m, jsonObj)
  else
    let jsonObj ← jsonObj.assign ["__meta__", "request"] .null
    let m := { m with mRequestSeq := m.mRequestSeq + 1 }
    let jsonObj ← jsonObj.assign ["__meta__", "request", "seq"] (.int m.mRequestSeq.toInt64)
    pure (m, jsonObj)

/-- `send`. -/
def send (json : Library) (sendto : (n : ℕ) → Udp.SendtoResult n) (m : STPManager) (jsonObj : Value)
    (remote : Option Addr) : Checked (Sent Addr) :=
  match remote with
  | none => .ok { ret := -1, manager := m, jsonObj := jsonObj, datagram := none }
  | some remote => do
    let (m, jsonObj) ← m.putMeta jsonObj
    let str := JsonUtil.jsonToString json jsonObj ++ [0]
    if (sendto str.length).val ≤ 0 then
      pure { ret := -1, manager := m, jsonObj := jsonObj, datagram := none }
    else
      pure { ret := 0, manager := m, jsonObj := jsonObj, datagram := some (remote, str) }

/-- What the loop of `recv` does with an object it has parsed. -/
def accept (m : STPManager) (jsonObj : Value) (addr : Addr) : Checked (Iteration Addr) := do
  if m.mIsServer then
    let (jsonObj, seq) ← jsonObj.read ["__meta__", "request", "seq"]
    let seq ← seq.asInt
    pure (.returns ⟨0, { m with mResponseSeq := seq }, jsonObj, some addr⟩)
  else
    let (jsonObj, seq) ← jsonObj.read ["__meta__", "response", "seq"]
    if seq.neInt m.mRequestSeq then
      pure (.again jsonObj (some addr))
    else
      pure (.returns ⟨0, m, jsonObj, some addr⟩)

/-- An iteration of the loop of `recv`. -/
def recvIteration (json : Library) (m : STPManager) (jsonObj : Value) (remote : Option Addr)
    (recvBuf : RecvBuf) (received : Received Addr) : Checked (Iteration Addr) :=
  match received with
  | none => .ok (.returns ⟨-1, m, jsonObj, remote⟩)
  | some (addr, payload) =>
    if 0 < Udp.recvNum stpMaxPkgSize payload then do
      let str ← Udp.cString (Udp.recvfrom recvBuf payload)
      let (res, jsonObj) := JsonUtil.parseJson json str jsonObj
      if res then
        m.accept jsonObj addr
      else
        pure (.returns ⟨-1, m, jsonObj, remote⟩)
    else
      .ok (.returns ⟨-1, m, jsonObj, remote⟩)

/-- `recv`, with what `recvfrom` answers and the contents of `recv_buf` before each call of it:
`none` if `recv` still waits after them. -/
def recv (json : Library) (m : STPManager) :
    Value → Option Addr → List (RecvBuf × Received Addr) → Checked (Option (Returned Addr))
  | _, _, [] => .ok none
  | jsonObj, remote, (recvBuf, received) :: rest => do
    match ← m.recvIteration json jsonObj remote recvBuf received with
    | .again jsonObj remote => recv json m jsonObj remote rest
    | .returns r => pure (some r)

end STPManager

end Stp

end Mvr
