import Mvr.CfJson.Basic
import Mvr.Configer.Basic

/-!
# The layout of `player.cpp`

The mosaic layout lives in three globals: the grid `dst_vertical_blks × dst_horizontal_blks` and
`layer_layout_tab`, which holds at index `row * cols + col` the input shown in that cell, -1 for an
empty one.  This file translates the functions that load, save, report and change it:
`readLayoutConf`, `writeLayoutConf`, `sendLayoutCfg` and the websocket handler `wsOnCliReadText`.

Products and sums of `int` wrap around.  An access outside `layer_layout_tab`, a division by zero
or an exception that leaves a function ends the computation with a `Fault`.
-/

namespace Mvr.Player

/-- `MAX_LAYER_NUMS`. -/
abbrev maxLayerNums : ℕ := 128

/-- `layer_layout_tab`. -/
abbrev LayoutTab := Vector Int32 maxLayerNums

/-- The globals of the layout, with the configuration object and the files it is saved to. -/
structure Globals where
  viHorizontalBlks : Int32
  viVerticalBlks : Int32
  dstHorizontalBlks : Int32
  dstVerticalBlks : Int32
  layerLayoutTab : LayoutTab
  conf : Configer
  files : Files

/-- The globals when the program starts. -/
def Globals.initial (conf : Configer) (files : Files) : Globals where
  viHorizontalBlks := 8
  viVerticalBlks := 8
  dstHorizontalBlks := 8
  dstVerticalBlks := 8
  layerLayoutTab := Vector.replicate maxLayerNums 0
  conf := conf
  files := files

/-- `layer_layout_tab[i] = i` for all `i < MAX_LAYER_NUMS`. -/
def identityTab : LayoutTab := Vector.ofFn fun i => Int32.ofNat i.val

/-- `layer_layout_tab[i] = -1` for all `i < MAX_LAYER_NUMS`. -/
def clearedTab : LayoutTab := Vector.replicate maxLayerNums (-1)

/-! ### Loading and saving -/

/-- One round of the loop of `readLayoutConf` over the stored sources. -/
def readSource (dstHorizontalBlks : Int32) (tab : LayoutTab) (source : PTree) :
    Checked LayoutTab :=
  let row := source.getInt "rowNo" (-1)
  let col := source.getInt "colNo" (-1)
  let inputId := source.getInt "inputId" (-1)
  if row ≠ -1 ∧ col ≠ -1 ∧ inputId ≠ -1 then
    -- the index is not checked: the file may name any cell
    Checked.set tab (row * dstHorizontalBlks + col).toInt inputId
  else
    pure tab

/-- `read_layout_conf`. -/
def readLayoutConf (g : Globals) : Checked Globals :=
  let confPt := g.conf.json
  if confPt.getString "mvr_mode" "unfixed" = "fixed" then
    pure { g with
      viHorizontalBlks := 2, viVerticalBlks := 1
      dstHorizontalBlks := 1, dstVerticalBlks := 1
      layerLayoutTab := identityTab }
  else
    let g := { g with
      viHorizontalBlks := 8, viVerticalBlks := 8
      dstHorizontalBlks := 8, dstVerticalBlks := 8 }
    -- without a stored layout the grid keeps its defaults
    if confPt.count "layout" < 1 then
      pure { g with layerLayoutTab := identityTab }
    else do
      let layout ← confPt.getChild "layout"
      let val := layout.getInt "rows" (-1)
      let dstVerticalBlks := if val ≠ -1 then val else g.dstVerticalBlks
      let val := layout.getInt "cols" (-1)
      let dstHorizontalBlks := if val ≠ -1 then val else g.dstHorizontalBlks
      -- a layout without sources throws
      let sources ← layout.getChild "sources"
      let tab ← sources.children.foldlM
        (fun tab source => readSource dstHorizontalBlks tab source.2) clearedTab
      pure { g with
        dstVerticalBlks := dstVerticalBlks
        dstHorizontalBlks := dstHorizontalBlks
        layerLayoutTab := tab }

/-- The record that `writeLayoutConf` stores for a cell. -/
def sourceTree (row col inputId : Int32) : PTree :=
  ((PTree.empty.putInt "rowNo" row).putInt "colNo" col).putInt "inputId" inputId

/-- The loop of `writeLayoutConf`: one record for each entry of the table that is not -1. -/
def layoutSources (cols : Int32) (tab : LayoutTab) : Checked PTree :=
  (List.range maxLayerNums).foldlM (fun sources (i : ℕ) => do
    let inputId ← Checked.get tab i
    if inputId ≠ -1 then
      let row ← Checked.div (Int32.ofNat i) cols
      let col ← Checked.mod (Int32.ofNat i) cols
      pure (sources.pushBack "" (sourceTree row col inputId))
    else
      pure sources) PTree.empty

/-- `write_layout_conf`. -/
def writeLayoutConf (parser : JsonParser) (g : Globals) : Checked Globals := do
  let confPt := g.conf.json
  -- the guard asks for more than one layout, so a single one is rebuilt from nothing
  let layout ← if confPt.count "layout" > 1 then confPt.getChild "layout" else pure PTree.empty
  let layout := (layout.putInt "rows" g.dstVerticalBlks).putInt "cols" g.dstHorizontalBlks
  let sources ← layoutSources g.dstHorizontalBlks g.layerLayoutTab
  let layout := layout.putChild "sources" sources
  let conf := g.conf.setJson (confPt.putChild "layout" layout)
  pure { g with conf := conf, files := conf.save parser g.files }

/-! ### The websocket messages -/

/-- The record of a cell in the reply. -/
def posJson (rowNo colNo inputId : Int32) : CfJson :=
  .object [("rowNo", .int rowNo), ("colNo", .int colNo), ("inputId", .int inputId)]

/-- The loop of `sendLayoutCfg`: one record for each cell of the grid that is not empty.  (The two
branches the source guards with `0 &&` are left out.) -/
def layoutPos (rows cols : Int32) (tab : LayoutTab) : Checked (List CfJson) :=
  (List.range (rows * cols).toInt.toNat).foldlM (fun pos (i : ℕ) => do
    let inputId ← Checked.get tab i
    if inputId = -1 then
      pure pos
    else
      let rowNo ← Checked.div (Int32.ofNat i) cols
      let colNo ← Checked.mod (Int32.ofNat i) cols
      pure (pos ++ [posJson rowNo colNo inputId])) []

/-- The `root` that `sendLayoutCfg` prints. -/
def replyJson (mvrMode : String) (rows cols : Int32) (pos : List CfJson) : CfJson :=
  .object [("topic", .string "layout_cfg"), ("mvr_mode", .string mvrMode),
    ("layout", .object [("rows", .int rows), ("cols", .int cols)]), ("pos", .array pos)]

/-- `send_layout_cfg`: the globals after it and the message written to the client. -/
def sendLayoutCfg (g : Globals) : Checked (Globals × CfJson) :=
  let mvrMode := g.conf.json.getString "mvr_mode" "unfixed"
  if mvrMode = "unfixed" then do
    let pos ← layoutPos g.dstVerticalBlks g.dstHorizontalBlks g.layerLayoutTab
    pure (g, replyJson mvrMode g.dstVerticalBlks g.dstHorizontalBlks pos)
  else do
    -- `i < 16 * 8` runs over the whole table
    let g := { g with layerLayoutTab := identityTab }
    let pos ← layoutPos 16 8 g.layerLayoutTab
    pure (g, replyJson mvrMode 16 8 pos)

/-- `cf_json_contains(json, "topic") && strcmp(cf_json_get_string(json, "topic", …), …) == 0`. -/
def topicIs (json : CfJson) (topic : String) : Checked Bool :=
  if json.contains "topic" then do
    let s ← json.getString "topic"
    pure (s = topic)
  else
    pure false

/-- One round of the loop of `wsOnCliReadText` over the records of a message. -/
def storeRecord (cols : Int32) (tab : LayoutTab) (item : CfJson) : Checked LayoutTab := do
  let row ← item.getInt "rowNo"
  let col ← item.getInt "colNo"
  let inputId ← item.getInt "inputId"
  Checked.set tab (row * cols + col).toInt inputId

/-- `ws_on_cli_read_text`: the globals after a message and the reply to it, if there is one.  The
message is what `cf_json_load` made of the text, `none` for a null pointer. -/
def wsOnCliReadText (parser : JsonParser) (g : Globals) (json : Option CfJson) :
    Checked (Globals × Option CfJson) :=
  match json with
  | none => pure (g, none)
  | some json => do
    if ← topicIs json "query_cfg" then
      let (g, reply) ← sendLayoutCfg g
      pure (g, some reply)
    else if ← topicIs json "layout_cfg" then
      let g ←
        if g.conf.json.count "mvr_mode" > 0 ∧
            g.conf.json.getString "mvr_mode" "unfixed" = "unfixed" then do
          -- the request replaces the layout as a whole, whatever it holds
          let layout ← CfJson.ofPtr (json.getItem "layout")
          let rows ← layout.getInt "rows"
          let cols ← layout.getInt "cols"
          let pos ← CfJson.ofPtr (json.getItem "pos")
          let arrSize ← pos.getArraySize
          let tab ← (List.range arrSize).foldlM (fun tab i => do
            let item ← pos.getItemFromArray i
            storeRecord cols tab item) clearedTab
          writeLayoutConf parser { g with
            dstVerticalBlks := rows
            dstHorizontalBlks := cols
            layerLayoutTab := tab }
        else
          -- the request is dropped, but answered like one that was applied
          pure g
      let (g, reply) ← sendLayoutCfg g
      pure (g, some reply)
    else
      pure (g, none)

end Mvr.Player
