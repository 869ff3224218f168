import Mvr.Player.Equiv.Gather

/-!
# The websocket handler on a decoded request

`writeLayoutConf_eq` and `sendLayoutCfg_of_unfixed` reduce the save and the reply to their loops;
`wsOnCliReadText_of_isQueryCfg` and `wsOnCliReadText_of_isLayoutCfg` say what the handler does with
a message that encodes a request.  Saving leaves every other key of the configuration alone
(`find?_saved_of_ne`), so a configuration stays editable.
-/

namespace Mvr.Player

/-! ### Saving -/

/-- The layout that `write_layout_conf` starts from. -/
def baseLayout (conf : PTree) : PTree :=
  if conf.count "layout" > 1 then (conf.find? "layout").getD PTree.empty else PTree.empty

/-- The layout that `write_layout_conf` stores. -/
def layoutTree (base : PTree) (rows cols : Int32) (sources : PTree) : PTree :=
  ((base.putInt "rows" rows).putInt "cols" cols).putChild "sources" sources

/-- The globals after the layout is stored and saved. -/
def Globals.saved (g : Globals) (parser : JsonParser) (sources : PTree) : Globals :=
  let layout := layoutTree (baseLayout g.conf.json) g.dstVerticalBlks g.dstHorizontalBlks sources
  let conf := g.conf.setJson (g.conf.json.putChild "layout" layout)
  { g with conf := conf, files := conf.save parser g.files }

theorem writeLayoutConf_eq (parser : JsonParser) (g : Globals) :
    writeLayoutConf parser g = (do
      let sources ← layoutSources g.dstHorizontalBlks g.layerLayoutTab
      pure (g.saved parser sources)) := by
  unfold writeLayoutConf Globals.saved baseLayout
  dsimp only
  split_ifs with hcount
  · -- the guard promises a child to copy
    have hsome := (g.conf.json.count_pos_iff "layout").mp (by omega)
    obtain ⟨layout, hlayout⟩ := Option.isSome_iff_exists.mp hsome
    rw [PTree.getChild, hlayout]
    rfl
  · rfl

theorem writeLayoutConf_eq_ok (parser : JsonParser) {g : Globals} (hc : g.dstHorizontalBlks ≠ 0) :
    writeLayoutConf parser g =
      .ok (g.saved parser (sourcesTree g.dstHorizontalBlks g.layerLayoutTab)) := by
  rw [writeLayoutConf_eq, layoutSources_eq_ok hc]
  rfl

theorem writeLayoutConf_isOk_iff (parser : JsonParser) (g : Globals) :
    (writeLayoutConf parser g).IsOk ↔
      g.dstHorizontalBlks ≠ 0 ∨ ∀ i < maxLayerNums, entry g.layerLayoutTab i = none := by
  rw [writeLayoutConf_eq, Checked.isOk_bind_iff, ← layoutSources_isOk_iff]
  constructor
  · rintro ⟨sources, h, -⟩
    exact ⟨sources, h⟩
  · rintro ⟨sources, h⟩
    exact ⟨sources, h, Checked.isOk_pure _⟩

theorem writeLayoutConf_faultsIn (parser : JsonParser) (g : Globals) :
    (writeLayoutConf parser g).FaultsIn Fault.IsAccess := by
  rw [writeLayoutConf_eq, layoutSources_eq_gather]
  exact (gather_faultsIn _ _).bind fun _ _ => Checked.faultsIn_ok _ _

section Saved

variable (g : Globals) (parser : JsonParser) (sources : PTree)

/-- Saving touches no key but `layout`. -/
theorem find?_saved_of_ne {key : String} (h : key ≠ "layout") :
    (g.saved parser sources).conf.json.find? key = g.conf.json.find? key :=
  PTree.find?_putChild_of_ne _ h _

end Saved

/-- Whether a configuration is editable depends on `mvr_mode` only. -/
theorem editable_congr {conf conf' : PTree} (h : conf.find? "mvr_mode" = conf'.find? "mvr_mode") :
    Editable conf ↔ Editable conf' := by
  unfold Editable
  rw [gt_iff_lt, gt_iff_lt, PTree.count_pos_iff, PTree.count_pos_iff, h,
    PTree.getString_congr h]

theorem editable_saved (g : Globals) (parser : JsonParser) (sources : PTree) :
    Editable (g.saved parser sources).conf.json ↔ Editable g.conf.json :=
  editable_congr (find?_saved_of_ne g parser sources (by decide))

/-- Storing the same layout twice is storing it once. -/
theorem layoutTree_layoutTree (base : PTree) (rows cols : Int32) (sources : PTree) :
    layoutTree (layoutTree base rows cols sources) rows cols sources
      = layoutTree base rows cols sources := by
  unfold layoutTree
  have hrows : ∃ cs, (((base.putInt "rows" rows).putInt "cols" cols).putChild "sources"
      sources).find? "rows" = some (PTree.node (CText.formatInt rows.toInt) cs) := by
    rw [PTree.find?_putChild_of_ne _ (by decide), PTree.putInt, PTree.find?_put_of_ne _ (by decide)]
    exact PTree.find?_put_self _ _ _
  have hcols : ∃ cs, (((base.putInt "rows" rows).putInt "cols" cols).putChild "sources"
      sources).find? "cols" = some (PTree.node (CText.formatInt cols.toInt) cs) := by
    rw [PTree.find?_putChild_of_ne _ (by decide)]
    exact PTree.find?_put_self _ _ _
  obtain ⟨rcs, hrcs⟩ := hrows
  obtain ⟨ccs, hccs⟩ := hcols
  generalize hstored : ((base.putInt "rows" rows).putInt "cols" cols).putChild "sources" sources
    = stored at hrcs hccs ⊢
  have hsources : stored.find? "sources" = some sources := by
    rw [← hstored]
    exact PTree.find?_putChild_self _ _ _
  rw [PTree.putInt_of_find? hrcs, PTree.putInt_of_find? hccs, PTree.putChild_of_find? hsources]

/-- Saving the same layout twice is saving it once. -/
theorem saved_saved (g : Globals) (parser : JsonParser) (sources : PTree) :
    (g.saved parser sources).saved parser sources = g.saved parser sources := by
  have hconf : ∀ conf : PTree, ∀ layout,
      layout = layoutTree (baseLayout conf) g.dstVerticalBlks g.dstHorizontalBlks sources →
      (conf.putChild "layout" layout).putChild "layout"
        (layoutTree (baseLayout (conf.putChild "layout" layout)) g.dstVerticalBlks
          g.dstHorizontalBlks sources) = conf.putChild "layout" layout := by
    intro conf layout hlayout
    have hbase : layoutTree (baseLayout (conf.putChild "layout" layout)) g.dstVerticalBlks
        g.dstHorizontalBlks sources = layout := by
      unfold baseLayout
      rw [PTree.count_putChild_self, PTree.find?_putChild_self]
      split_ifs with hcount
      · -- with two layouts the second save starts from the first one stored
        rw [Option.getD_some, hlayout, layoutTree_layoutTree]
      · -- with one it starts from nothing again, and builds the same
        rw [hlayout, baseLayout, if_neg (by omega)]
    rw [hbase]
    exact PTree.putChild_of_find? (PTree.find?_putChild_self _ _ _)
  unfold Globals.saved
  simp only [Configer.json_setJson, hconf g.conf.json _ rfl]
  simp [Configer.setJson, Configer.save]

/-! ### The reply -/

theorem sendLayoutCfg_of_unfixed {g : Globals}
    (h : g.conf.json.getString "mvr_mode" "unfixed" = "unfixed") :
    sendLayoutCfg g = (do
      let pos ← layoutPos g.dstVerticalBlks g.dstHorizontalBlks g.layerLayoutTab
      pure (g, replyJson "unfixed" g.dstVerticalBlks g.dstHorizontalBlks pos)) := by
  unfold sendLayoutCfg
  rw [h]
  rfl

theorem sendLayoutCfg_isOk_iff {g : Globals}
    (h : g.conf.json.getString "mvr_mode" "unfixed" = "unfixed") :
    (sendLayoutCfg g).IsOk ↔ (g.dstVerticalBlks * g.dstHorizontalBlks).toInt ≤ maxLayerNums := by
  rw [sendLayoutCfg_of_unfixed h, Checked.isOk_bind_iff, ← layoutPos_isOk_iff]
  constructor
  · rintro ⟨pos, hpos, -⟩
    exact ⟨pos, hpos⟩
  · rintro ⟨pos, hpos⟩
    exact ⟨pos, hpos, Checked.isOk_pure _⟩

/-- In the mode `"unfixed"` a reply does not change the globals. -/
theorem sendLayoutCfg_fst {g g' : Globals} {reply : CfJson}
    (h : g.conf.json.getString "mvr_mode" "unfixed" = "unfixed")
    (hok : sendLayoutCfg g = .ok (g', reply)) : g' = g := by
  rw [sendLayoutCfg_of_unfixed h, Checked.bind_eq_ok] at hok
  obtain ⟨pos, -, hpure⟩ := hok
  exact (congrArg Prod.fst (Except.ok.inj hpure)).symm

theorem sendLayoutCfg_faultsIn (g : Globals) : (sendLayoutCfg g).FaultsIn Fault.IsAccess := by
  have hpos : ∀ rows cols tab, (layoutPos rows cols tab).FaultsIn Fault.IsAccess :=
    fun rows cols tab => by
      rw [layoutPos_eq_gather]
      exact gather_faultsIn _ _
  unfold sendLayoutCfg
  dsimp only
  split_ifs
  · exact (hpos _ _ _).bind fun _ _ => Checked.faultsIn_ok _ _
  · exact (hpos _ _ _).bind fun _ _ => Checked.faultsIn_ok _ _

/-! ### The messages -/

/-- A request as a client sends it; `send_layout_cfg` replies in the same form. -/
def LayoutCfg.json (cfg : LayoutCfg) : CfJson :=
  replyJson "unfixed" cfg.rows cfg.cols (cfg.pos.map PosRecord.json)

theorem PosRecord.isPosRecord_json (r : PosRecord) : IsPosRecord r.json r where
  rowNo := CfJson.getInt_cons_of_eq _ _ rfl
  colNo := by
    unfold PosRecord.json posJson
    rw [CfJson.getInt_cons_of_ne _ _ (by decide), CfJson.getInt_cons_of_eq _ _ rfl]
  inputId := by
    unfold PosRecord.json posJson
    rw [CfJson.getInt_cons_of_ne _ _ (by decide), CfJson.getInt_cons_of_ne _ _ (by decide),
      CfJson.getInt_cons_of_eq _ _ rfl]

theorem LayoutCfg.isLayoutCfg_json (cfg : LayoutCfg) : IsLayoutCfg cfg.json cfg where
  topic := rfl
  layout := by
    unfold LayoutCfg.json replyJson
    rw [CfJson.getItem_cons_of_ne _ _ (by decide), CfJson.getItem_cons_of_ne _ _ (by decide),
      CfJson.getItem_cons_of_eq _ _ rfl]
    refine ⟨_, rfl, CfJson.getInt_cons_of_eq _ _ rfl, ?_⟩
    rw [CfJson.getInt_cons_of_ne _ _ (by decide), CfJson.getInt_cons_of_eq _ _ rfl]
  pos := by
    unfold LayoutCfg.json replyJson
    rw [CfJson.getItem_cons_of_ne _ _ (by decide), CfJson.getItem_cons_of_ne _ _ (by decide),
      CfJson.getItem_cons_of_ne _ _ (by decide), CfJson.getItem_cons_of_eq _ _ rfl]
    exact ⟨_, rfl, List.forall₂_map_left_iff.mpr
      (List.forall₂_same.mpr fun r _ => r.isPosRecord_json)⟩

/-- What the handler does with an accepted mode: the records are stored, the layout is saved. -/
def applyLayoutCfg (parser : JsonParser) (g : Globals) (cfg : LayoutCfg) : Checked Globals := do
  let tab ← cfg.store
  writeLayoutConf parser { g with
    dstVerticalBlks := cfg.rows
    dstHorizontalBlks := cfg.cols
    layerLayoutTab := tab }

/-- The globals after an accepted request. -/
def Globals.applied (g : Globals) (parser : JsonParser) (cfg : LayoutCfg) : Globals :=
  let g := { g with
    dstVerticalBlks := cfg.rows
    dstHorizontalBlks := cfg.cols
    layerLayoutTab := cfg.tab }
  g.saved parser (sourcesTree cfg.cols cfg.tab)

theorem applyLayoutCfg_of_accepted (parser : JsonParser) (g : Globals) {cfg : LayoutCfg}
    (h : cfg.Accepted) : applyLayoutCfg parser g cfg = .ok (g.applied parser cfg) := by
  have hcols : cfg.cols ≠ 0 := CInt.ne_zero_of_pos h.isGrid.cols_pos
  rw [applyLayoutCfg, h.store_eq_ok, Checked.ok_bind]
  exact writeLayoutConf_eq_ok parser hcols

theorem wsOnCliReadText_of_isQueryCfg (parser : JsonParser) (g : Globals) {json : CfJson}
    (h : IsQueryCfg json) :
    wsOnCliReadText parser g (some json) = (do
      let (g, reply) ← sendLayoutCfg g
      pure (g, some reply)) := by
  unfold wsOnCliReadText
  dsimp only
  rw [topicIs_of_getString h, Checked.ok_bind]
  rfl

theorem wsOnCliReadText_of_isLayoutCfg (parser : JsonParser) (g : Globals) {json : CfJson}
    {cfg : LayoutCfg} (h : IsLayoutCfg json cfg) :
    wsOnCliReadText parser g (some json) = (do
      let g ← if Editable g.conf.json then applyLayoutCfg parser g cfg else pure g
      let (g, reply) ← sendLayoutCfg g
      pure (g, some reply)) := by
  obtain ⟨layout, hlayout, hrows, hcols⟩ := h.layout
  obtain ⟨items, hitems, hpos⟩ := h.pos
  unfold wsOnCliReadText
  dsimp only
  rw [topicIs_of_getString h.topic, Checked.ok_bind, topicIs_of_getString h.topic, Checked.ok_bind]
  simp only [show decide ("layout_cfg" = "query_cfg") = false by decide, decide_true, if_true,
    Bool.false_eq_true, if_false]
  by_cases hedit : Editable g.conf.json
  · have hmode : g.conf.json.count "mvr_mode" > 0 ∧
        g.conf.json.getString "mvr_mode" "unfixed" = "unfixed" := hedit
    -- the accessors find the request in the message
    rw [if_pos hmode, if_pos hedit, applyLayoutCfg, hlayout, hitems]
    simp only [CfJson.ofPtr, Checked.ok_bind, hrows, hcols, CfJson.getArraySize, storeLoop_eq hpos,
      bind_assoc]
  · have hmode : ¬ (g.conf.json.count "mvr_mode" > 0 ∧
        g.conf.json.getString "mvr_mode" "unfixed" = "unfixed") := hedit
    rw [if_neg hmode, if_neg hedit]

end Mvr.Player
