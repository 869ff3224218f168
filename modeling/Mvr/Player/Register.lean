import Mvr.Player.Request
import Mvr.Sequential.Basic

/-!
# The layout server as a register

What the clients of the layout server see is a register that holds one layout: a new connection and
a `query_cfg` read it, a `layout_cfg` writes it and reads it back.  `serve` is the implementation,
`Register.call` the register.
-/

namespace Mvr.Player

/-- What `cf_websocket_server` calls the program for. -/
inductive ServerCall where
  /-- `on_new_websocket`. -/
  | newWebsocket
  /-- `ws_on_cli_read_text`, with what `cf_json_load` made of the text. -/
  | cliReadText (json : Option CfJson)

/-- A call, and the message that is written to the client. -/
def serve (parser : JsonParser) (g : Globals) : ServerCall → Checked (Globals × Option CfJson)
  | .newWebsocket => do
    let (g, reply) ← sendLayoutCfg g
    pure (g, some reply)
  | .cliReadText json => wsOnCliReadText parser g json

/-- The messages to the clients over a sequence of calls. -/
def serveAll (parser : JsonParser) : Globals → List ServerCall →
    Checked (Globals × List (Option CfJson)) :=
  Sequential.run (serve parser)

namespace Register

/-- The calls of the register. -/
inductive Call where
  | read
  | write (L : GridLayout Int32)
  /-- A message that is none of the protocol. -/
  | skip

/-- A call of the register, and the layout that is reported for it. -/
def call (L : GridLayout Int32) : Call → GridLayout Int32 × Option (GridLayout Int32)
  | .read => (L, some L)
  | .write L' => (L', some L')
  | .skip => (L, none)

end Register

/-- What a call of the program asks of the register. -/
inductive Means : ServerCall → Register.Call → Prop
  | newWebsocket : Means .newWebsocket .read
  | query {json : CfJson} (h : IsQueryCfg json) : Means (.cliReadText (some json)) .read
  | layout {json : CfJson} {cfg : LayoutCfg} (h : IsLayoutCfg json cfg) (hcfg : cfg.Accepted) :
      Means (.cliReadText (some json)) (.write cfg.layout)
  /-- The text is not JSON. -/
  | noJson : Means (.cliReadText none) .skip
  | noTopic {json : CfJson} (h : json.contains "topic" = false) :
      Means (.cliReadText (some json)) .skip
  | otherTopic {json : CfJson} {topic : String} (h : json.getString "topic" = .ok topic)
      (hquery : topic ≠ "query_cfg") (hlayout : topic ≠ "layout_cfg") :
      Means (.cliReadText (some json)) .skip

/-- The message shows the layout: it is the canonical request for it. -/
def Reports (reply : Option CfJson) (L : Option (GridLayout Int32)) : Prop :=
  reply = L.map fun L => replyJson "unfixed" (Int32.ofNat L.rows) (Int32.ofNat L.cols)
    ((LayoutCfg.canonical L).pos.map fun r => posJson r.rowNo r.colNo r.inputId)

/-- The program holds the layout in the cells of its grid, and takes requests. -/
structure HoldsLayout (g : Globals) (L : GridLayout Int32) : Prop where
  editable : Editable g.conf.json
  isGrid : IsGrid g.dstVerticalBlks g.dstHorizontalBlks
  rows_eq : L.rows = g.dstVerticalBlks.toInt.toNat
  cols_eq : L.cols = g.dstHorizontalBlks.toInt.toNat
  entry_eq : ∀ i < L.rows * L.cols, entry g.layerLayoutTab i = L.cell (i / L.cols) (i % L.cols)

/-- The identity layout of the 8 × 8 grid. -/
def identityLayout : GridLayout Int32 where
  rows := 8
  cols := 8
  cell a b := if a < 8 ∧ b < 8 then some (Int32.ofNat (a * 8 + b)) else none
  cell_eq_none _ _ h := if_neg h

end Mvr.Player
