import Mvr.Player.Equiv.Handler

/-!
# Saving and loading the layout

`read_layout_conf` on a tree that holds a layout stores the records of its sources like the
websocket handler does, except that a record with a -1 in it is skipped
(`readLayoutConf_of_stores`).  The records that `write_layout_conf` saves have no -1, and they are
the entries of the table at their own indices (`lastWrite_records`), so loading a saved layout gives
back the grid and all the entries of the table (`readLayoutConf_writeLayoutConf`).
-/

namespace Mvr.Player

/-! ### Loading -/

/-- What the loader does: in the mode `"fixed"` it sets a layout of its own, in any other one it
sets the input grid and some layout, and never anything else. -/
theorem readLayoutConf_cases {g g' : Globals} (h : readLayoutConf g = .ok g') :
    (g.conf.json.getString "mvr_mode" "unfixed" = "fixed" ∧ g' = { g with
      viHorizontalBlks := 2, viVerticalBlks := 1
      dstHorizontalBlks := 1, dstVerticalBlks := 1
      layerLayoutTab := identityTab }) ∨
    (g.conf.json.getString "mvr_mode" "unfixed" ≠ "fixed" ∧ ∃ rows cols tab, g' = { g with
      viHorizontalBlks := 8, viVerticalBlks := 8
      dstHorizontalBlks := cols, dstVerticalBlks := rows
      layerLayoutTab := tab }) := by
  unfold readLayoutConf at h
  dsimp only at h
  split_ifs at h with hmode hcount
  · exact Or.inl ⟨hmode, (Except.ok.inj h).symm⟩
  · exact Or.inr ⟨hmode, 8, 8, identityTab, (Except.ok.inj h).symm⟩
  · simp only [Checked.bind_eq_ok] at h
    obtain ⟨layout, -, sources, -, tab, -, hpure⟩ := h
    exact Or.inr ⟨hmode, _, _, tab, (Except.ok.inj hpure).symm⟩

/-- A stored source holds a record; a number that is missing reads as -1. -/
structure IsSource (source : PTree) (r : PosRecord) : Prop where
  rowNo : source.getInt "rowNo" (-1) = r.rowNo
  colNo : source.getInt "colNo" (-1) = r.colNo
  inputId : source.getInt "inputId" (-1) = r.inputId

/-- The tree holds a layout. -/
def Stores (conf : PTree) (cfg : LayoutCfg) : Prop :=
  ∃ layout sources, conf.find? "layout" = some layout ∧
    layout.getInt "rows" (-1) = cfg.rows ∧ layout.getInt "cols" (-1) = cfg.cols ∧
    layout.find? "sources" = some sources ∧
    List.Forall₂ (fun source r => IsSource source.2 r) sources.children cfg.pos

/-- A record without a -1. -/
def PosRecord.IsSet (r : PosRecord) : Prop := r.rowNo ≠ -1 ∧ r.colNo ≠ -1 ∧ r.inputId ≠ -1

instance : DecidablePred PosRecord.IsSet := fun r => by
  unfold PosRecord.IsSet
  infer_instance

/-- The request for the records that the loader does not skip. -/
def LayoutCfg.loaded (cfg : LayoutCfg) : LayoutCfg :=
  { cfg with pos := cfg.pos.filter PosRecord.IsSet }

theorem readSource_of_isSource {source : PTree} {r : PosRecord} (h : IsSource source r)
    (cols : Int32) (tab : LayoutTab) :
    readSource cols tab source =
      if r.IsSet then Checked.set tab (r.index cols) r.inputId else pure tab := by
  unfold readSource
  rw [h.rowNo, h.colNo, h.inputId]
  rfl

/-- The loop over the stored sources stores the records that have no -1. -/
theorem readLoop_eq {children : List (String × PTree)} {cfg : LayoutCfg}
    (h : List.Forall₂ (fun source r => IsSource source.2 r) children cfg.pos) :
    children.foldlM (fun tab source => readSource cfg.cols tab source.2) clearedTab =
      cfg.loaded.store := by
  unfold LayoutCfg.store LayoutCfg.loaded
  dsimp only
  generalize clearedTab = tab
  generalize cfg.pos = pos at h
  induction h generalizing tab with
  | nil => rfl
  | @cons source r children pos hr _ ih =>
    rw [List.foldlM_cons, readSource_of_isSource hr]
    by_cases hset : r.IsSet
    · rw [if_pos hset, List.filter_cons_of_pos (by simpa using hset), List.foldlM_cons]
      exact congrArg _ (funext ih)
    · -- a record with a -1 is passed over
      rw [if_neg hset, List.filter_cons_of_neg (by simpa using hset)]
      exact ih tab

/-- Outside the mode `"fixed"` the stored layout is loaded, when its dimensions are there. -/
theorem readLayoutConf_of_stores {g : Globals} {cfg : LayoutCfg}
    (hmode : g.conf.json.getString "mvr_mode" "unfixed" ≠ "fixed") (h : Stores g.conf.json cfg)
    (hrows : cfg.rows ≠ -1) (hcols : cfg.cols ≠ -1) :
    readLayoutConf g = (do
      let tab ← cfg.loaded.store
      pure { g with
        viHorizontalBlks := 8, viVerticalBlks := 8
        dstVerticalBlks := cfg.rows, dstHorizontalBlks := cfg.cols
        layerLayoutTab := tab }) := by
  obtain ⟨layout, sources, hlayout, hr, hc, hsources, hchildren⟩ := h
  have hcount : ¬ g.conf.json.count "layout" < 1 := by
    have hpos := (g.conf.json.count_pos_iff "layout").mpr (by rw [hlayout]; rfl)
    omega
  unfold readLayoutConf
  dsimp only
  rw [if_neg hmode, if_neg hcount, PTree.getChild, hlayout]
  simp only [Checked.ok_bind, hr, hc, if_pos hrows, if_pos hcols, PTree.getChild, hsources,
    readLoop_eq hchildren]

/-! ### The saved records -/

/-- Quotient and remainder of an index give the index back. -/
theorem index_quotient {i : ℕ} (hi : i < maxLayerNums) {cols : Int32} (hc : 1 ≤ cols.toInt)
    (v : Int32) : PosRecord.index ⟨Int32.ofNat i / cols, Int32.ofNat i % cols, v⟩ cols = i := by
  have hmax : maxLayerNums = 128 := rfl
  have hdiv := CInt.toInt_ofNat_div (i := i) (by omega) (show 0 < cols.toInt by omega)
  have hmod := CInt.toInt_ofNat_mod (i := i) (by omega) (show 0 < cols.toInt by omega)
  have hidx : (Int32.ofNat i / cols).toInt * cols.toInt + (Int32.ofNat i % cols).toInt = i := by
    have h := Nat.div_add_mod' i cols.toInt.toNat
    zify at h
    rw [Int.toNat_of_nonneg (by omega)] at h
    rw [hdiv, hmod]
    push_cast
    rw [Int.toNat_of_nonneg (by omega), h]
  have hdiv0 := CInt.toInt_ofNat_div_nonneg (i := i) (by omega) (show 0 < cols.toInt by omega)
  have hmod0 := CInt.toInt_ofNat_mod_nonneg (i := i) (by omega) (show 0 < cols.toInt by omega)
  show (Int32.ofNat i / cols * cols + Int32.ofNat i % cols).toInt = i
  rw [CInt.toInt_mul_add_of_lt (by omega) (by omega) (by omega) (by omega), hidx]

/-- The records of the table are the entries at their own indices. -/
theorem map_index_records {bound : ℕ} (hb : bound ≤ maxLayerNums) {cols : Int32}
    (hc : 1 ≤ cols.toInt) (tab : LayoutTab) :
    ((records bound cols tab).map fun r => ((r.index cols).toNat, r.inputId)) =
      (List.range bound).filterMap fun i => (entry tab i).map fun v => (i, v) := by
  unfold records
  rw [List.map_filterMap]
  apply List.filterMap_congr
  intro i hi
  have hlt : i < maxLayerNums := by
    have := List.mem_range.mp hi
    omega
  unfold recordAt
  rw [Option.map_map]
  congr 1
  ext v : 1
  simp only [Function.comp_apply, index_quotient hlt hc, Int.toNat_natCast]

/-- No record of the table has a -1. -/
theorem isSet_of_mem_records {bound : ℕ} (hb : bound ≤ maxLayerNums) {cols : Int32}
    (hc : 1 ≤ cols.toInt) {tab : LayoutTab} {r : PosRecord} (hr : r ∈ records bound cols tab) :
    r.IsSet ∧ 0 ≤ r.index cols ∧ r.index cols < maxLayerNums := by
  have hmax : maxLayerNums = 128 := rfl
  have hm1 : Int32.toInt (-1) = -1 := rfl
  obtain ⟨i, hi, hrec⟩ := List.mem_filterMap.mp hr
  have hlt : i < maxLayerNums := by
    have := List.mem_range.mp hi
    omega
  obtain ⟨v, hv, rfl⟩ := Option.map_eq_some_iff.mp hrec
  have hdiv0 := CInt.toInt_ofNat_div_nonneg (i := i) (by omega) (show 0 < cols.toInt by omega)
  have hmod0 := CInt.toInt_ofNat_mod_nonneg (i := i) (by omega) (show 0 < cols.toInt by omega)
  refine ⟨⟨fun h => ?_, fun h => ?_, ?_⟩, ?_⟩
  · -- quotient and remainder are not negative, and a -1 is not saved
    rw [show Int32.ofNat i / cols = -1 from h, hm1] at hdiv0
    omega
  · rw [show Int32.ofNat i % cols = -1 from h, hm1] at hmod0
    omega
  · rw [entry_of_lt tab hlt, sourceOf] at hv
    split_ifs at hv with hne
    obtain rfl := Option.some.inj hv
    exact hne
  · rw [index_quotient hlt hc]
    omega

/-- The last saved record of an index is the entry of the table. -/
theorem lastWrite_records {cols : Int32} (hc : 1 ≤ cols.toInt) (tab : LayoutTab) {i : ℕ}
    (hi : i < maxLayerNums) :
    (lastWrite ((records maxLayerNums cols tab).map fun r =>
      ((r.index cols).toNat, r.inputId)) i).getD (-1) = tab[i] := by
  rw [map_index_records le_rfl hc, lastWrite_filterMap_range, if_pos hi, entry_of_lt tab hi,
    sourceOf]
  split_ifs with h
  · rw [h]
    rfl
  · rfl

/-- The saved layout, as a request. -/
def Globals.savedCfg (g : Globals) : LayoutCfg where
  rows := g.dstVerticalBlks
  cols := g.dstHorizontalBlks
  pos := records maxLayerNums g.dstHorizontalBlks g.layerLayoutTab

theorem PosRecord.isSource_tree (r : PosRecord) : IsSource r.tree r := by
  constructor <;> simp [PosRecord.tree, sourceTree]

/-- The saved tree holds the layout. -/
theorem stores_saved (parser : JsonParser) (g : Globals) :
    Stores (g.saved parser (sourcesTree g.dstHorizontalBlks g.layerLayoutTab)).conf.json
      g.savedCfg := by
  refine ⟨_, _, PTree.find?_putChild_self _ _ _, ?_, ?_, PTree.find?_putChild_self _ _ _, ?_⟩
  · simp [layoutTree, Globals.savedCfg]
  · simp [layoutTree, Globals.savedCfg]
  · exact List.forall₂_map_left_iff.mpr (List.forall₂_same.mpr fun r _ => r.isSource_tree)

/-- **Saving then loading the layout is the identity**: whatever the grid of the table, all of its
entries come back, also those beyond the grid. -/
theorem readLayoutConf_writeLayoutConf (parser : JsonParser) (g other : Globals)
    (hrows : 1 ≤ g.dstVerticalBlks.toInt) (hcols : 1 ≤ g.dstHorizontalBlks.toInt)
    (hmode : g.conf.json.getString "mvr_mode" "unfixed" ≠ "fixed")
    (hparser : ∀ saved, writeLayoutConf parser g = .ok saved →
      parser.readJson (parser.writeJson saved.conf.json) = some saved.conf.json) :
    ∃ saved loaded, writeLayoutConf parser g = .ok saved ∧
      readLayoutConf { other with
        conf := .new parser saved.files g.conf.mFileName, files := saved.files } = .ok loaded ∧
      loaded.dstVerticalBlks = g.dstVerticalBlks ∧
      loaded.dstHorizontalBlks = g.dstHorizontalBlks ∧
      loaded.layerLayoutTab = g.layerLayoutTab := by
  have hm1 : Int32.toInt (-1) = -1 := rfl
  have hc0 : g.dstHorizontalBlks ≠ 0 := CInt.ne_zero_of_pos hcols
  have hwrite := writeLayoutConf_eq_ok parser hc0
  have hstores := stores_saved parser g
  have hread := hparser _ hwrite
  generalize sourcesTree g.dstHorizontalBlks g.layerLayoutTab = sources at hwrite hstores hread
  -- the configuration of the next start is the saved one
  have hconf : Configer.new parser (g.saved parser sources).files g.conf.mFileName =
      (g.saved parser sources).conf := Configer.new_save _ _ hread
  have hmode' : (g.saved parser sources).conf.json.getString "mvr_mode" "unfixed" ≠ "fixed" := by
    rwa [PTree.getString_congr (find?_saved_of_ne g parser sources (by decide))]
  -- no record is skipped on the way back
  have hloaded : g.savedCfg.loaded = g.savedCfg := by
    have hfilter : g.savedCfg.pos.filter PosRecord.IsSet = g.savedCfg.pos :=
      List.filter_eq_self.mpr fun r hr =>
        decide_eq_true (isSet_of_mem_records le_rfl hcols hr).1
    unfold LayoutCfg.loaded
    rw [hfilter]
  have hstore : g.savedCfg.loaded.store = .ok g.savedCfg.tab := by
    rw [hloaded]
    exact LayoutCfg.store_eq_ok fun r hr => (isSet_of_mem_records le_rfl hcols hr).2
  have hrows1 : g.savedCfg.rows ≠ -1 := CInt.ne_neg_one_of_pos hrows
  have hcols1 : g.savedCfg.cols ≠ -1 := CInt.ne_neg_one_of_pos hcols
  have htab : g.savedCfg.tab = g.layerLayoutTab := by
    ext i hi
    rw [LayoutCfg.getElem_tab]
    exact lastWrite_records hcols g.layerLayoutTab hi
  have hload : readLayoutConf { other with
      conf := .new parser (g.saved parser sources).files g.conf.mFileName
      files := (g.saved parser sources).files } = .ok { g.saved parser sources with
      viHorizontalBlks := 8, viVerticalBlks := 8 } := by
    rw [hconf]
    refine (readLayoutConf_of_stores hmode' hstores hrows1 hcols1).trans ?_
    rw [hstore, htab]
    rfl
  exact ⟨_, _, hwrite, hload, rfl, rfl, rfl⟩

/-- A 1 × 2 grid with input 5 in its second cell. -/
def smallGrid : Globals :=
  { Globals.initial (confWithMode "unfixed") fun _ => none with
    dstVerticalBlks := 1
    dstHorizontalBlks := 2
    layerLayoutTab := clearedTab.set 1 5 }

/-- The tree that is saved for it. -/
def smallTree : PTree :=
  .node "" [("mvr_mode", .leaf "unfixed"), ("layout", .node "" [("rows", .leaf "1"),
    ("cols", .leaf "2"), ("sources", .node "" [("", .node "" [("rowNo", .leaf "0"),
      ("colNo", .leaf "1"), ("inputId", .leaf "5")])])])]

/-- The file that is saved for it. -/
def smallText : String :=
  "\x7b\n    \"mvr_mode\": \"unfixed\",\n    \"layout\": \x7b\n        \"rows\": \"1\",\n" ++
  "        \"cols\": \"2\",\n        \"sources\": [\n            \x7b\n" ++
  "                \"rowNo\": \"0\",\n                \"colNo\": \"1\",\n" ++
  "                \"inputId\": \"5\"\n            \x7d\n        ]\n    \x7d\n\x7d\n"

theorem writeLayoutConf_smallGrid (parser : JsonParser) :
    writeLayoutConf parser smallGrid = .ok { smallGrid with
      conf := smallGrid.conf.setJson smallTree
      files := (smallGrid.conf.setJson smallTree).save parser fun _ => none } := by
  have hrecords : records maxLayerNums smallGrid.dstHorizontalBlks smallGrid.layerLayoutTab
      = [⟨0, 1, 5⟩] := by decide +kernel
  rw [writeLayoutConf_eq_ok parser (by decide), sourcesTree, hrecords]
  rfl

theorem readLayoutConf_writeLayoutConf_smallGrid :
    ∃ saved loaded, writeLayoutConf (.ofText smallText smallTree) smallGrid = .ok saved ∧
      readLayoutConf { Globals.initial (confWithMode "fixed") fun _ => none with
        conf := .new (.ofText smallText smallTree) saved.files smallGrid.conf.mFileName
        files := saved.files } = .ok loaded ∧
      loaded.dstVerticalBlks = smallGrid.dstVerticalBlks ∧
      loaded.dstHorizontalBlks = smallGrid.dstHorizontalBlks ∧
      loaded.layerLayoutTab = smallGrid.layerLayoutTab := by
  refine readLayoutConf_writeLayoutConf _ smallGrid _ (by decide) (by decide) (by decide) ?_
  intro saved hsaved
  rw [writeLayoutConf_smallGrid] at hsaved
  obtain rfl := Except.ok.inj hsaved
  exact JsonParser.readJson_ofText smallText smallTree _

end Mvr.Player
