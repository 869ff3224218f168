import Mvr.Lts.Basic
import Mvr.Stp.Basic
import Mathlib.Logic.Function.Basic

/-!
# A server and its clients

The server runs the loop of `stp_util`: it receives a request, computes the response, and sends it
to where the request came from.  The clients are known by their addresses and call `send` and `recv`
in any order, with any objects and to any remote point.  A step of the system is one call of
`recvfrom` or `sendto` by one of the parties, with what that party computes around it, so that
everything else may happen between two of them.
-/

namespace Mvr.Stp

open JsonCpp

namespace StpUtil

/-- An iteration of the loop over the cameras. -/
def putCamera (responseJson : Value) (i : ℕ) : Checked Value := do
  let ipJson ← Value.null.assign ["ip"] (.string s!"192.168.10.{i}")
  let responseJson ← responseJson.assign ["data"] .null
  let (responseJson, ()) ← responseJson.update
    (fun data => do
      let data ← data.append ipJson
      pure (data, ())) ["data"]
  pure responseJson

/-- The response to a request, with the request as it is afterwards. -/
def respond (json : Library) (requestJson : Value) : Checked (Value × Value) := do
  let responseJson ← Value.null.assign ["cmd"] (.string "response")
  let (requestJson, cmd) ← requestJson.read ["cmd"]
  let cmd ← cmd.asString json
  if cmd = "onvif_list" then
    let responseJson ← (List.range 10).foldlM putCamera responseJson
    pure (requestJson, responseJson)
  else
    let responseJson ← responseJson.assign ["cmd"] (.string "unknow_cmd")
    pure (requestJson, responseJson)

end StpUtil

/-- The variables of the server's loop, and whether it has a request to answer. -/
structure Server (Addr : Type) where
  manager : STPManager
  requestJson : Value
  remote : Option Addr
  responding : Bool

/-- A client, with the object and the remote point of the `recv` it is in. -/
structure Client (Addr : Type) where
  manager : STPManager
  waiting : Option (Value × Option Addr)

/-- The parties and the network. -/
structure System (Addr : Type) where
  server : Server Addr
  clients : Addr → Client Addr
  net : List (Udp.Datagram Addr)

variable {Addr : Type}

/-- The server after an iteration of `recv`. -/
def Server.received (server : Server Addr) : Iteration Addr → Server Addr
  | .again jsonObj remote => { server with requestJson := jsonObj, remote := remote }
  | .returns r =>
    { manager := r.manager, requestJson := r.jsonObj, remote := r.remote, responding := r.ret == 0 }

/-- A client after an iteration of `recv`. -/
def Client.received (client : Client Addr) : Iteration Addr → Client Addr
  | .again jsonObj remote => { client with waiting := some (jsonObj, remote) }
  | .returns r => { manager := r.manager, waiting := none }

/-- What happens in a step. -/
inductive Event (Addr : Type) where
  /-- A client calls `send`. -/
  | clientSend (client : Addr) (remote : Option Addr) (sent : Sent Addr)
  /-- A client calls `recv`. -/
  | clientRecv (client : Addr)
  /-- A client in `recv` returns from `recvfrom`. -/
  | clientRecvfrom (client : Addr) (iteration : Iteration Addr)
  | serverRecvfrom (iteration : Iteration Addr)
  /-- The server sends the response to a request. -/
  | serverSend (remote : Option Addr) (requestJson responseJson : Value) (sent : Sent Addr)

namespace System

/-- Nothing has been sent. -/
def init (Addr : Type) : System Addr where
  server :=
    { manager := STPManager.createInstance true
      requestJson := .null
      remote := none
      responding := false }
  clients _ := { manager := STPManager.createInstance false, waiting := none }
  net := []

variable [DecidableEq Addr]

/-- The steps of the system whose server is at the address `server`. -/
inductive Step (json : Library) (server : Addr) :
    System Addr → Event Addr → System Addr → Prop where
  | clientSend {s : System Addr} {client : Addr} (hne : client ≠ server)
      (hidle : (s.clients client).waiting = none) {sendto : (n : ℕ) → Udp.SendtoResult n}
      {jsonObj : Value} {remote : Option Addr} {sent : Sent Addr}
      (hsend : (s.clients client).manager.send json sendto jsonObj remote = .ok sent) :
      Step json server s (.clientSend client remote sent)
        { s with
          clients := Function.update s.clients client ⟨sent.manager, none⟩
          net := Udp.transmit s.net client sent.datagram }
  | clientRecv {s : System Addr} {client : Addr} (hne : client ≠ server)
      (hidle : (s.clients client).waiting = none) (jsonObj : Value) (remote : Option Addr) :
      Step json server s (.clientRecv client)
        { s with
          clients := Function.update s.clients client
            ⟨(s.clients client).manager, some (jsonObj, remote)⟩ }
  | clientRecvfrom {s : System Addr} {client : Addr} (hne : client ≠ server) {jsonObj : Value}
      {remote : Option Addr} (hwaiting : (s.clients client).waiting = some (jsonObj, remote))
      {received : Received Addr} (hnet : Udp.CanReceive s.net client received) {recvBuf : RecvBuf}
      {iteration : Iteration Addr}
      (hrecv : (s.clients client).manager.recvIteration json jsonObj remote recvBuf received =
        .ok iteration) :
      Step json server s (.clientRecvfrom client iteration)
        { s with
          clients := Function.update s.clients client ((s.clients client).received iteration) }
  | serverRecvfrom {s : System Addr} (hidle : s.server.responding = false)
      {received : Received Addr} (hnet : Udp.CanReceive s.net server received) {recvBuf : RecvBuf}
      {iteration : Iteration Addr}
      (hrecv : s.server.manager.recvIteration json s.server.requestJson s.server.remote recvBuf
        received = .ok iteration) :
      Step json server s (.serverRecvfrom iteration)
        { s with server := s.server.received iteration }
  | serverSend {s : System Addr} (hresponding : s.server.responding = true)
      {requestJson responseJson : Value}
      (hrespond : StpUtil.respond json s.server.requestJson = .ok (requestJson, responseJson))
      {sendto : (n : ℕ) → Udp.SendtoResult n} {sent : Sent Addr}
      (hsend : s.server.manager.send json sendto responseJson s.server.remote = .ok sent) :
      Step json server s (.serverSend s.server.remote s.server.requestJson responseJson sent)
        { s with
          server :=
            { manager := sent.manager
              requestJson := requestJson
              remote := s.server.remote
              responding := false }
          net := Udp.transmit s.net server sent.datagram }

end System

/-! ### What a run has sent -/

namespace Event

/-- The object that the event turns into a text. -/
def jsonObj : Event Addr → Option Value
  | .clientSend _ (some _) sent => some sent.jsonObj
  | .serverSend _ _ _ sent => some sent.jsonObj
  | _ => none

/-- The request that a client makes in the event. -/
def request [DecidableEq Addr] (client : Addr) : Event Addr → Option Value
  | .clientSend c (some _) sent => if c = client then some sent.jsonObj else none
  | _ => none

end Event

/-- The requests of a client, in their order. -/
def requests [DecidableEq Addr] (client : Addr) (tr : List (Event Addr)) : List Value :=
  tr.filterMap (Event.request client)

/-- The reader and the writer agree on all objects of the run. -/
def Faithful (json : Library) (tr : List (Event Addr)) : Prop :=
  ∀ e ∈ tr, ∀ value, e.jsonObj = some value → JsonUtil.Inverts json value

end Mvr.Stp
