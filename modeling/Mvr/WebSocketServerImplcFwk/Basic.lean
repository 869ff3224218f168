import Mvr.CfJson.Basic
import Mathlib.Logic.Function.Basic

/-!
# `WebSocketServerImplcFWK`

The websocket server of the video element.  Every connection has a `video_cli` object; `cli_list`
holds pointers to them, and the websocket library keeps one for each connection as its user data.
`memory` holds the objects that are allocated, so that following a pointer to a freed one is a
`Fault`.  What the code does not initialise (`m_max_pending`, and `pending_h264` of a new object)
starts with whatever was in memory: it is a parameter of the constructor and of the allocation.

`Step` lets the library call the three callbacks for its connections, and the encoder call
`pushData`, in any order.
-/

namespace Mvr

/-- A `cf_websocket*`. -/
abbrev CfWebsocket := ℕ

/-- A `video_cli*`. -/
abbrev VideoCliPtr := ℕ

/-- `video_cli`. -/
structure VideoCli where
  ws : CfWebsocket
  pendingH264 : UInt32
  deriving DecidableEq

/-- The server, with the memory of its clients and the user data of its connections. -/
structure WebSocketServerImplcFwk where
  /-- `on_max_pending_changed != nullptr`. -/
  onMaxPendingChanged : Bool
  mMaxPending : UInt32
  cliList : List VideoCliPtr
  memory : VideoCliPtr → Option VideoCli
  userData : CfWebsocket → Option VideoCliPtr

namespace WebSocketServerImplcFwk

/-- The constructor. -/
def new (residue : UInt32) : WebSocketServerImplcFwk where
  onMaxPendingChanged := false
  mMaxPending := residue
  cliList := []
  memory _ := none
  userData _ := none

/-- `setMaxPendingChangedCallback`, with a function that is not null. -/
def setMaxPendingChangedCallback (s : WebSocketServerImplcFwk) : WebSocketServerImplcFwk :=
  { s with onMaxPendingChanged := true }

/-- `*v_cli`. -/
def deref (s : WebSocketServerImplcFwk) (vCli : VideoCliPtr) : Checked VideoCli :=
  match s.memory vCli with
  | some cli => .ok cli
  | none => .error .badPointer

/-- `v_cli->pending_h264 = n`. -/
def setPending (s : WebSocketServerImplcFwk) (vCli : VideoCliPtr) (n : UInt32) :
    Checked WebSocketServerImplcFwk := do
  let cli ← s.deref vCli
  pure { s with memory := Function.update s.memory vCli (some { cli with pendingH264 := n }) }

/-- `on_new_websocket`, where the allocator returned `vCli`. -/
def onNewWebsocket (s : WebSocketServerImplcFwk) (cli : CfWebsocket) (vCli : VideoCliPtr)
    (residue : UInt32) : WebSocketServerImplcFwk :=
  { s with
    memory := Function.update s.memory vCli (some ⟨cli, residue⟩)
    userData := Function.update s.userData cli (some vCli)
    cliList := s.cliList ++ [vCli] }

/-- `on_disconnect`. -/
def onDisconnect (s : WebSocketServerImplcFwk) (cli : CfWebsocket) : WebSocketServerImplcFwk :=
  match s.userData cli with
  | some vCli =>
    { s with
      cliList := s.cliList.filter fun p => p ≠ vCli
      memory := Function.update s.memory vCli none }
  | none => s

/-- `(*std::max_element(cli_list.begin(), cli_list.end(), …))->pending_h264`. -/
def maxPending (s : WebSocketServerImplcFwk) : Checked UInt32 :=
  match s.cliList with
  -- `end()` is dereferenced
  | [] => .error .badPointer
  | first :: rest => do
    let largest ← rest.foldlM (fun largest vCli => do
      let c1 ← s.deref largest
      let c2 ← s.deref vCli
      pure (if c1.pendingH264 < c2.pendingH264 then vCli else largest)) first
    let cli ← s.deref largest
    pure cli.pendingH264

/-- `on_cli_read`: the server after a message, and the argument of `on_max_pending_changed` if it
was called. -/
def onCliRead (s : WebSocketServerImplcFwk) (cli : CfWebsocket) (json : CfJson) :
    Checked (WebSocketServerImplcFwk × Option UInt32) :=
  match s.userData cli with
  | none => .error .badPointer
  | some vCli => do
    let _ ← s.deref vCli
    if json.contains "pendingH264pkg" then
      let n ← json.getInt "pendingH264pkg"
      let s ← s.setPending vCli n.toUInt32
      if s.onMaxPendingChanged then
        let max ← s.maxPending
        if max ≠ s.mMaxPending ∨ max = 0 then
          -- the maximum is recorded before the callback runs
          pure ({ s with mMaxPending := max }, some max)
        else
          pure (s, none)
      else
        pure (s, none)
    else
      pure (s, none)

/-- `pushData`: the server after it, and the frames written, in order. -/
def pushData (s : WebSocketServerImplcFwk) (buff : List UInt8) :
    Checked (WebSocketServerImplcFwk × List (CfWebsocket × List UInt8)) := do
  let s ←
    if s.cliList.length > 10 then
      -- from the third of the reversed list on
      (s.cliList.reverse.drop 2).foldlM (fun s vWs => s.setPending vWs 0) s
    else
      pure s
  let receivers := if s.cliList.length > 2 then s.cliList.reverse.take 2 else s.cliList.reverse
  let writes ← receivers.mapM fun vWs => do
    let cli ← s.deref vWs
    pure (cli.ws, buff)
  pure (s, writes)

/-! ### Sessions -/

/-- The server and the open connections of the library, in the order in which they were opened. -/
structure Session where
  server : WebSocketServerImplcFwk
  connections : List CfWebsocket

/-- What happens to the server. -/
inductive Event where
  | connect (cli : CfWebsocket)
  | disconnect (cli : CfWebsocket)
  | read (cli : CfWebsocket) (json : CfJson) (called : Option UInt32)
  | push (buff : List UInt8) (writes : List (CfWebsocket × List UInt8))
  | setCallback

/-- A new connection is none of the open ones, its object is allocated at a free address, and only
an open connection is read from or closed. -/
inductive Step : Session → Event → Session → Prop
  | connect {s : Session} {cli : CfWebsocket} {vCli : VideoCliPtr} (residue : UInt32)
      (hcli : cli ∉ s.connections) (halloc : s.server.memory vCli = none) :
      Step s (.connect cli) ⟨s.server.onNewWebsocket cli vCli residue, s.connections ++ [cli]⟩
  | disconnect {s : Session} {cli : CfWebsocket} (hcli : cli ∈ s.connections) :
      Step s (.disconnect cli) ⟨s.server.onDisconnect cli, s.connections.filter fun c => c ≠ cli⟩
  | read {s : Session} {cli : CfWebsocket} {json : CfJson} {server : WebSocketServerImplcFwk}
      {called : Option UInt32} (hcli : cli ∈ s.connections)
      (hread : s.server.onCliRead cli json = .ok (server, called)) :
      Step s (.read cli json called) ⟨server, s.connections⟩
  | push {s : Session} {buff : List UInt8} {server : WebSocketServerImplcFwk}
      {writes : List (CfWebsocket × List UInt8)}
      (hpush : s.server.pushData buff = .ok (server, writes)) :
      Step s (.push buff writes) ⟨server, s.connections⟩
  | setCallback {s : Session} :
      Step s .setCallback ⟨s.server.setMaxPendingChangedCallback, s.connections⟩

/-- The server is constructed before any connection is open. -/
def Session.new (residue : UInt32) : Session := ⟨.new residue, []⟩

end WebSocketServerImplcFwk

end Mvr
