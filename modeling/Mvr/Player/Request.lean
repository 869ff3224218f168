import Mvr.Player.Layout
import Mvr.GridLayout.Basic

/-!
# The requests of the layout protocol

A client sends `query_cfg` or `layout_cfg` messages.  `IsLayoutCfg json cfg` says that the accessors
of `cf_json` find in `json` exactly the integers and records of `cfg`; whatever else the message
holds is irrelevant.  `LayoutCfg.Accepted` is what a well-behaved client sends: a grid of at most
`MAX_LAYER_NUMS` cells and records inside it.
-/

namespace Mvr.Player

/-- A record of the `pos` array. -/
structure PosRecord where
  rowNo : Int32
  colNo : Int32
  inputId : Int32
  deriving DecidableEq

/-- A `layout_cfg` request. -/
structure LayoutCfg where
  rows : Int32
  cols : Int32
  pos : List PosRecord
  deriving DecidableEq

/-- The index of `layer_layout_tab` a record is stored at. -/
def PosRecord.index (r : PosRecord) (cols : Int32) : ℤ := (r.rowNo * cols + r.colNo).toInt

/-- The record lies in a grid. -/
structure PosRecord.InGrid (r : PosRecord) (rows cols : Int32) : Prop where
  rowNo_nonneg : 0 ≤ r.rowNo.toInt
  rowNo_lt : r.rowNo.toInt < rows.toInt
  colNo_nonneg : 0 ≤ r.colNo.toInt
  colNo_lt : r.colNo.toInt < cols.toInt

/-- A grid of at least one and at most `MAX_LAYER_NUMS` cells. -/
structure IsGrid (rows cols : Int32) : Prop where
  rows_pos : 1 ≤ rows.toInt
  cols_pos : 1 ≤ cols.toInt
  cells_le : rows.toInt * cols.toInt ≤ maxLayerNums

/-- The last record stored at an index. -/
def LayoutCfg.lastAt (cfg : LayoutCfg) (i : ℤ) : Option PosRecord :=
  (cfg.pos.filter fun r => r.index cfg.cols = i).getLast?

/-- What the handler needs of a request, signs and overflow included. -/
structure LayoutCfg.Fits (cfg : LayoutCfg) : Prop where
  index_mem : ∀ r ∈ cfg.pos, 0 ≤ r.index cfg.cols ∧ r.index cfg.cols < maxLayerNums
  cells_le : (cfg.rows * cfg.cols).toInt ≤ maxLayerNums
  /-- A grid of no columns shows nothing. -/
  inputId_eq : cfg.cols = 0 → ∀ i, ∀ r ∈ cfg.lastAt i, r.inputId = -1

/-- A grid that fits the table, with all records inside it. -/
structure LayoutCfg.Accepted (cfg : LayoutCfg) : Prop where
  isGrid : IsGrid cfg.rows cfg.cols
  inGrid : ∀ r ∈ cfg.pos, r.InGrid cfg.rows cfg.cols

/-! ### Requests as JSON messages -/

/-- The value holds a record. -/
structure IsPosRecord (json : CfJson) (r : PosRecord) : Prop where
  rowNo : json.getInt "rowNo" = .ok r.rowNo
  colNo : json.getInt "colNo" = .ok r.colNo
  inputId : json.getInt "inputId" = .ok r.inputId

/-- The message is a `layout_cfg` request. -/
structure IsLayoutCfg (json : CfJson) (cfg : LayoutCfg) : Prop where
  topic : json.getString "topic" = .ok "layout_cfg"
  layout : ∃ layout, json.getItem "layout" = some layout ∧
    layout.getInt "rows" = .ok cfg.rows ∧ layout.getInt "cols" = .ok cfg.cols
  pos : ∃ items, json.getItem "pos" = some (.array items) ∧
    List.Forall₂ IsPosRecord items cfg.pos

/-- The message is a `query_cfg` request. -/
def IsQueryCfg (json : CfJson) : Prop := json.getString "topic" = .ok "query_cfg"

/-- The requests of a client. -/
inductive Request where
  | queryCfg
  | layoutCfg (cfg : LayoutCfg)

/-- What the handler needs of a request: a query needs nothing. -/
def Request.Fits : Request → Prop
  | .queryCfg => True
  | .layoutCfg cfg => cfg.Fits

/-- The message is the request. -/
def Encodes (json : CfJson) : Request → Prop
  | .queryCfg => IsQueryCfg json
  | .layoutCfg cfg => IsLayoutCfg json cfg

/-- The globals after a message. -/
def wsStep (parser : JsonParser) (g : Globals) (json : CfJson) : Checked Globals := do
  let (g, _) ← wsOnCliReadText parser g (some json)
  pure g

/-- The globals after a sequence of messages. -/
def wsRun (parser : JsonParser) (g : Globals) (messages : List CfJson) : Checked Globals :=
  messages.foldlM (wsStep parser) g

/-- `mvr_mode` is present and `"unfixed"`, the test of `ws_on_cli_read_text`. -/
def Editable (conf : PTree) : Prop :=
  conf.count "mvr_mode" > 0 ∧ conf.getString "mvr_mode" "unfixed" = "unfixed"

instance (conf : PTree) : Decidable (Editable conf) := by
  unfold Editable
  infer_instance

/-- `CONFIG_VIDEO_FILE` with nothing but an `mvr_mode` in it. -/
def confWithMode (mode : String) : Configer where
  mFileName := "/tmp/video_config.json"
  mPtree := .node "" [("mvr_mode", .leaf mode)]

/-- The program started on a file without a layout. -/
def unfixedStart : Globals := .initial (confWithMode "unfixed") fun _ => none

/-! ### What a request asks for -/

/-- The entry of the table as a cell: -1 is an empty one. -/
def sourceOf (inputId : Int32) : Option Int32 := if inputId = -1 then none else some inputId

/-- The source at an index of the table, if there is one. -/
def entry (tab : LayoutTab) (i : ℕ) : Option Int32 := tab[i]?.bind sourceOf

/-- A record as a write to a cell. -/
def PosRecord.write (r : PosRecord) : (ℕ × ℕ) × Option Int32 :=
  ((r.rowNo.toInt.toNat, r.colNo.toInt.toNat), sourceOf r.inputId)

/-- The layout a request asks for. -/
def LayoutCfg.layout (cfg : LayoutCfg) : GridLayout Int32 :=
  .ofWrites cfg.rows.toInt.toNat cfg.cols.toInt.toNat (cfg.pos.map PosRecord.write)

/-- The last record of a cell. -/
def LayoutCfg.lastOf (cfg : LayoutCfg) (rowNo colNo : Int32) : Option PosRecord :=
  (cfg.pos.filter fun r => r.rowNo = rowNo ∧ r.colNo = colNo).getLast?

/-- Row-major order of the cells of two records. -/
def PosRecord.Precedes (r s : PosRecord) : Prop :=
  r.rowNo < s.rowNo ∨ r.rowNo = s.rowNo ∧ r.colNo < s.colNo

/-- The canonical form of a request: the last record of every cell that is not left empty, in
strictly increasing row-major order. -/
structure LayoutCfg.IsCanonicalFor (cfg' cfg : LayoutCfg) : Prop where
  rows_eq : cfg'.rows = cfg.rows
  cols_eq : cfg'.cols = cfg.cols
  pairwise : cfg'.pos.Pairwise PosRecord.Precedes
  mem_pos : ∀ r, r ∈ cfg'.pos ↔ r.inputId ≠ -1 ∧ cfg.lastOf r.rowNo r.colNo = some r

/-- The table shows a layout: the entries of its cells, and -1 everywhere else. -/
def Shows (tab : LayoutTab) (L : GridLayout Int32) : Prop :=
  ∀ i < maxLayerNums, entry tab i =
    if i < L.rows * L.cols then L.cell (i / L.cols) (i % L.cols) else none

/-- The record of a write. -/
def PosRecord.ofWrite (w : (ℕ × ℕ) × Option Int32) : PosRecord where
  rowNo := Int32.ofNat w.1.1
  colNo := Int32.ofNat w.1.2
  inputId := w.2.getD (-1)

/-- The canonical request for a layout. -/
def LayoutCfg.canonical (L : GridLayout Int32) : LayoutCfg where
  rows := Int32.ofNat L.rows
  cols := Int32.ofNat L.cols
  pos := L.writes.map PosRecord.ofWrite

end Mvr.Player
