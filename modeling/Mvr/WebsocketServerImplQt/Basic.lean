import Mvr.Checked.Basic
import Mathlib.Logic.Function.Basic

/-!
# `WebsocketServerImplQt`

The Qt implementation of the same interface.  It keeps the sockets of its clients in `m_clients` and
the pending counts in a vector of its own, `m_client_pendings`: the count of a client is the one at
the client's position.  The vector is resized where it is used, in `onClientTestMsg` and in
`OnPushData`; `socketDisconnected` only shortens the list of the sockets.

The slots run one after the other in the thread of the server.  `Step` calls them in any order.
-/

namespace Mvr

/-- A `QWebSocket*`. -/
abbrev QWebSocketPtr := ℕ

namespace QVector

/-- `QVector<int>::resize`: new items are 0. -/
def resize (v : List Int32) (size : ℕ) : List Int32 :=
  v.take size ++ List.replicate (size - v.length) 0

/-- `v[i] = n`. -/
def set (v : List Int32) (i : ℤ) (n : Int32) : Checked (List Int32) :=
  if 0 ≤ i ∧ i < v.length then .ok (v.set i.toNat n) else .error (.outOfBounds i)

/-- `*std::max_element(std::begin(v), std::end(v))`. -/
def maxElement : List Int32 → Checked Int32
  -- `end()` is dereferenced
  | [] => .error .badPointer
  | first :: rest =>
    .ok (rest.foldl (fun largest n => if largest < n then n else largest) first)

end QVector

/-- The server. -/
structure WebsocketServerImplQt where
  mClients : List QWebSocketPtr
  mMaxPending : Int32
  mClientPendings : List Int32
  /-- `on_max_pending_changed != nullptr`. -/
  onMaxPendingChanged : Bool

namespace WebsocketServerImplQt

/-- The constructor. -/
def new : WebsocketServerImplQt where
  mClients := []
  mMaxPending := 0
  mClientPendings := []
  onMaxPendingChanged := false

/-- `setMaxPendingChangedCallback`, with a function that is not null. -/
def setMaxPendingChangedCallback (s : WebsocketServerImplQt) : WebsocketServerImplQt :=
  { s with onMaxPendingChanged := true }

/-- `onNewConnection`; the socket of a client too many is closed at once. -/
def onNewConnection (s : WebsocketServerImplQt) (pSocket : QWebSocketPtr) :
    WebsocketServerImplQt :=
  if s.mClients.length ≥ 50 then s else { s with mClients := s.mClients ++ [pSocket] }

/-- `m_clients.indexOf(pClient)`. -/
def indexOf (s : WebsocketServerImplQt) (pClient : QWebSocketPtr) : ℤ :=
  if pClient ∈ s.mClients then s.mClients.idxOf pClient else -1

/-- The part of `onClientTestMsg` that tells the callback about a new maximum. -/
def reportMax (s : WebsocketServerImplQt) : Checked (WebsocketServerImplQt × Option Int32) :=
  if s.onMaxPendingChanged then do
    let max ← QVector.maxElement s.mClientPendings
    if max ≠ s.mMaxPending ∨ max = 0 then
      pure ({ s with mMaxPending := max }, some max)
    else
      pure (s, none)
  else
    pure (s, none)

/-- `onClientTestMsg`: the server after a message of a client, and the argument of
`on_max_pending_changed` if it was called.  Of the message only `json["pendingH264pkg"].toInt()`
concerns the lists, `none` if there is no such member. -/
def onClientTestMsg (s : WebsocketServerImplQt) (pClient : QWebSocketPtr)
    (pendingH264pkg : Option Int32) : Checked (WebsocketServerImplQt × Option Int32) :=
  let inx := s.indexOf pClient
  let s :=
    if inx ≥ s.mClientPendings.length then
      { s with mClientPendings := QVector.resize s.mClientPendings (inx + 1).toNat }
    else s
  match pendingH264pkg with
  | some n => do
    let pendings ← QVector.set s.mClientPendings inx n
    reportMax { s with mClientPendings := pendings }
  | none => pure (s, none)

/-- `socketDisconnected`: the counts stay where they are. -/
def socketDisconnected (s : WebsocketServerImplQt) (pClient : QWebSocketPtr) :
    WebsocketServerImplQt :=
  { s with mClients := s.mClients.filter fun p => p ≠ pClient }

/-- `for(int i = 0;i < m_client_pendings.size()-2;i++) m_client_pendings[i] = 0`. -/
def clearOlder (pendings : List Int32) : List Int32 :=
  (List.range (pendings.length - 2)).foldl (fun v i => v.set i 0) pendings

/-- `OnPushData`: the server after it, and the messages sent, in order; `isValid` says which
sockets are still open. -/
def onPushData (s : WebsocketServerImplQt) (isValid : QWebSocketPtr → Bool)
    (bytes : List UInt8) : WebsocketServerImplQt × List (QWebSocketPtr × List UInt8) :=
  let pendings :=
    if s.mClientPendings.length ≠ s.mClients.length then
      QVector.resize s.mClientPendings s.mClients.length
    else s.mClientPendings
  -- the last client and the one before it, if there are so many
  let receivers := [1, 2].filterMap fun i =>
    if i ≤ s.mClients.length then s.mClients[s.mClients.length - i]? else none
  ({ s with mClientPendings := clearOlder pendings },
    (receivers.filter isValid).map fun ws => (ws, bytes))

/-! ### Runs -/

/-- What happens to the server. -/
inductive Event where
  | newConnection (pSocket : QWebSocketPtr)
  | testMsg (pClient : QWebSocketPtr) (pendingH264pkg called : Option Int32)
  | disconnected (pClient : QWebSocketPtr)
  | pushData (isValid : QWebSocketPtr → Bool) (bytes : List UInt8)
  | setCallback

/-- A new connection has a socket of its own. -/
inductive Step : WebsocketServerImplQt → Event → WebsocketServerImplQt → Prop
  | newConnection {s : WebsocketServerImplQt} {pSocket : QWebSocketPtr}
      (h : pSocket ∉ s.mClients) : Step s (.newConnection pSocket) (s.onNewConnection pSocket)
  | testMsg {s s' : WebsocketServerImplQt} {pClient : QWebSocketPtr}
      {pendingH264pkg called : Option Int32}
      (h : s.onClientTestMsg pClient pendingH264pkg = .ok (s', called)) :
      Step s (.testMsg pClient pendingH264pkg called) s'
  | disconnected {s : WebsocketServerImplQt} {pClient : QWebSocketPtr} :
      Step s (.disconnected pClient) (s.socketDisconnected pClient)
  | pushData {s : WebsocketServerImplQt} {isValid : QWebSocketPtr → Bool} {bytes : List UInt8} :
      Step s (.pushData isValid bytes) (s.onPushData isValid bytes).1
  | setCallback {s : WebsocketServerImplQt} :
      Step s .setCallback s.setMaxPendingChangedCallback

end WebsocketServerImplQt

end Mvr
