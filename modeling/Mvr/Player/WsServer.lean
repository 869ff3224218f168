import Mvr.Player.Layout
import Mathlib.Data.Finset.Basic

/-!
# The layout server

`ws_server_run` creates a `cf_websocket_server`, sets the callbacks the program wants, and leaves
the rest to the library, of which the repository has the headers and an archive: it calls the
callback that is set for an event, once for each event, and does nothing for an event without a
callback.

A run of the server is a sequence of events of clients that come and go; a client that comes is none
of those that are connected.
-/

namespace Mvr.Player

/-- A `cf_websocket*`. -/
abbrev CfWebsocketPtr := ℕ

/-- What the callbacks work on. -/
structure LayoutServer where
  globals : Globals
  cliList : List CfWebsocketPtr

/-- `cf_websocket_server`: its callbacks, `none` where nothing was set. -/
structure CfWebsocketServer where
  onConnect : Option (LayoutServer → CfWebsocketPtr → Checked LayoutServer)
  onDisconnect : Option (LayoutServer → CfWebsocketPtr → Checked LayoutServer)
  onReadText : Option (LayoutServer → Option CfJson → Checked LayoutServer)

namespace CfWebsocketServer

/-- `cf_websocket_server_create`. -/
def create : CfWebsocketServer := ⟨none, none, none⟩

/-- `cf_websocket_server_set_on_connect_callback`. -/
def setOnConnectCallback (server : CfWebsocketServer)
    (onNewWebsocket : LayoutServer → CfWebsocketPtr → Checked LayoutServer) : CfWebsocketServer :=
  { server with onConnect := some onNewWebsocket }

/-- `cf_websocket_server_set_on_read_text_callback`. -/
def setOnReadTextCallback (server : CfWebsocketServer)
    (onCliReadText : LayoutServer → Option CfJson → Checked LayoutServer) : CfWebsocketServer :=
  { server with onReadText := some onCliReadText }

end CfWebsocketServer

/-- `on_new_websocket`. -/
def onNewWebsocket (s : LayoutServer) (cli : CfWebsocketPtr) : Checked LayoutServer := do
  let s := { s with cliList := s.cliList ++ [cli] }
  let (g, _) ← sendLayoutCfg s.globals
  pure { s with globals := g }

/-- `ws_on_cli_read_text` as a callback. -/
def onCliReadText (parser : JsonParser) (s : LayoutServer) (json : Option CfJson) :
    Checked LayoutServer := do
  let (g, _) ← wsOnCliReadText parser s.globals json
  pure { s with globals := g }

/-- `ws_server_run`: the server that it runs. -/
def wsServerRun (parser : JsonParser) : CfWebsocketServer :=
  let server := CfWebsocketServer.create
  let server := server.setOnConnectCallback onNewWebsocket
  server.setOnReadTextCallback (onCliReadText parser)

/-! ### Runs -/

/-- What happens to the server. -/
inductive ClientEvent where
  | connect (cli : CfWebsocketPtr)
  | disconnect (cli : CfWebsocketPtr)
  | readText (cli : CfWebsocketPtr) (json : Option CfJson)

/-- The program and the clients that are connected. -/
structure Connected where
  program : LayoutServer
  clients : Finset CfWebsocketPtr

/-- Nobody is connected yet. -/
def Connected.init (g : Globals) : Connected := ⟨⟨g, []⟩, ∅⟩

/-- The library calls a callback, if one is set. -/
def invoke {α : Type} (callback : Option (LayoutServer → α → Checked LayoutServer))
    (s : LayoutServer) (arg : α) : Checked LayoutServer :=
  match callback with
  | none => .ok s
  | some f => f s arg

/-- One event, with the call that the library makes for it. -/
inductive ServerStep (server : CfWebsocketServer) : Connected → ClientEvent → Connected → Prop
  | connect {s : Connected} {cli : CfWebsocketPtr} {program : LayoutServer}
      (hcli : cli ∉ s.clients) (hcall : invoke server.onConnect s.program cli = .ok program) :
      ServerStep server s (.connect cli) ⟨program, insert cli s.clients⟩
  | disconnect {s : Connected} {cli : CfWebsocketPtr} {program : LayoutServer}
      (hcli : cli ∈ s.clients) (hcall : invoke server.onDisconnect s.program cli = .ok program) :
      ServerStep server s (.disconnect cli) ⟨program, s.clients.erase cli⟩
  | readText {s : Connected} {cli : CfWebsocketPtr} {json : Option CfJson} {program : LayoutServer}
      (hcli : cli ∈ s.clients) (hcall : invoke server.onReadText s.program json = .ok program) :
      ServerStep server s (.readText cli json) ⟨program, s.clients⟩

/-- `cliList` holds the connected clients, each once. -/
structure ListsClients (s : Connected) : Prop where
  nodup : s.program.cliList.Nodup
  mem_iff : ∀ cli, cli ∈ s.program.cliList ↔ cli ∈ s.clients

/-- The event is not the end of a connection. -/
def ClientEvent.Stays : ClientEvent → Prop
  | .disconnect _ => False
  | _ => True

end Mvr.Player
