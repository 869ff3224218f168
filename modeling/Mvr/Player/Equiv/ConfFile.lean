import Mvr.Player.Equiv.SaveLoad

/-!
# Any configuration file

The file may have been edited by hand, so the tree is arbitrary.  `read_layout_conf` returns exactly
for the trees of `Loadable` (`readLayoutConf_isOk_iff`): a stored layout must have its `sources`,
and none of them may name a cell outside `layer_layout_tab`.  Saving keeps every key but `layout`,
while the stored layout is built anew: what else it held is lost
(`writeLayoutConf_keepsOtherKeys_iff`).
-/

namespace Mvr.Player

/-! ### Loading -/

/-- The columns of a stored layout; a number that is missing leaves the default. -/
def storedCols (layout : PTree) : Int32 :=
  if layout.getInt "cols" (-1) ≠ -1 then layout.getInt "cols" (-1) else 8

/-- The numbers of a source are set. -/
def SourceIsSet (source : PTree) : Prop :=
  source.getInt "rowNo" (-1) ≠ -1 ∧ source.getInt "colNo" (-1) ≠ -1 ∧
    source.getInt "inputId" (-1) ≠ -1

instance : DecidablePred SourceIsSet := fun source => by
  unfold SourceIsSet
  infer_instance

/-- The index of `layer_layout_tab` a source is stored at. -/
def sourceIndex (cols : Int32) (source : PTree) : ℤ :=
  (source.getInt "rowNo" (-1) * cols + source.getInt "colNo" (-1)).toInt

/-- The tree can be loaded: the mode is `"fixed"`, or a stored layout has sources, and those whose
numbers are set lie in the table. -/
def Loadable (conf : PTree) : Prop :=
  conf.getString "mvr_mode" "unfixed" = "fixed" ∨
    ∀ layout, conf.find? "layout" = some layout →
      ∃ sources, layout.find? "sources" = some sources ∧
        ∀ source ∈ sources.children, SourceIsSet source.2 →
          0 ≤ sourceIndex (storedCols layout) source.2 ∧
            sourceIndex (storedCols layout) source.2 < maxLayerNums

theorem readSource_isOk_iff (cols : Int32) (tab : LayoutTab) (source : PTree) :
    (readSource cols tab source).IsOk ↔ (SourceIsSet source →
      0 ≤ sourceIndex cols source ∧ sourceIndex cols source < maxLayerNums) := by
  have hread : readSource cols tab source =
      if SourceIsSet source then
        Checked.set tab (sourceIndex cols source) (source.getInt "inputId" (-1))
      else pure tab := rfl
  rw [hread]
  by_cases hset : SourceIsSet source
  · rw [if_pos hset, Checked.set_isOk_iff]
    exact ⟨fun h _ => h, fun h => h hset⟩
  · rw [if_neg hset]
    exact iff_of_true (Checked.isOk_pure _) fun h => absurd h hset

/-- The loop over the sources returns when each of them does, whatever the table holds. -/
theorem readSources_isOk_iff (cols : Int32) (tab : LayoutTab) (sources : List (String × PTree)) :
    (sources.foldlM (fun tab source => readSource cols tab source.2) tab).IsOk ↔
      ∀ source ∈ sources, SourceIsSet source.2 →
        0 ≤ sourceIndex cols source.2 ∧ sourceIndex cols source.2 < maxLayerNums :=
  Checked.foldlM_isOk_iff (fun _ => True) trivial
    (fun tab source _ _ => readSource_isOk_iff cols tab source.2) fun _ _ _ _ _ _ => trivial

/-- The loader returns exactly on the trees that can be loaded. -/
theorem readLayoutConf_isOk_iff_loadable (g : Globals) :
    (readLayoutConf g).IsOk ↔ Loadable g.conf.json := by
  unfold readLayoutConf Loadable
  dsimp only
  split_ifs with hmode hcount
  · exact iff_of_true (Checked.isOk_pure _) (Or.inl hmode)
  · -- no layout is stored
    have hnone : g.conf.json.find? "layout" = none := by
      by_contra hne
      have hpos := (g.conf.json.count_pos_iff "layout").mpr (Option.isSome_iff_ne_none.mpr hne)
      omega
    refine iff_of_true (Checked.isOk_pure _) (Or.inr fun layout hlayout => ?_)
    rw [hnone] at hlayout
    cases hlayout
  · obtain ⟨layout, hlayout⟩ := Option.isSome_iff_exists.mp
      ((g.conf.json.count_pos_iff "layout").mp (by omega))
    rw [or_iff_right hmode, PTree.getChild, hlayout]
    simp only [Option.some.injEq, forall_eq']
    rw [Checked.ok_bind, PTree.getChild]
    cases hsources : layout.find? "sources" with
    | none =>
      -- the exception leaves the function
      refine iff_of_false (Checked.not_isOk_error _) ?_
      rintro ⟨sources, hfound, -⟩
      cases hfound
    | some sources =>
      simp only [Option.some.injEq, exists_eq_left']
      rw [Checked.ok_bind, Checked.isOk_bind_iff, ← readSources_isOk_iff _ clearedTab]
      constructor
      · rintro ⟨tab, htab, -⟩
        exact ⟨tab, htab⟩
      · rintro ⟨tab, htab⟩
        exact ⟨tab, htab, Checked.isOk_pure _⟩

/-- **Loading any file**: for a file that parses as JSON the loader returns, with every store inside
the table, exactly when its tree can be loaded. -/
theorem readLayoutConf_isOk_iff (parser : JsonParser) (files : Files) (fileName text : String)
    (conf : PTree) (hfile : files fileName = some text) (hparse : parser.readJson text = some conf)
    (g : Globals) :
    (readLayoutConf { g with conf := .new parser files fileName }).IsOk ↔ Loadable conf := by
  have hconf : (Configer.new parser files fileName).json = conf := by
    simp [Configer.new, Configer.json, hfile, hparse]
  rw [readLayoutConf_isOk_iff_loadable, hconf]

/-- A file with a text of its own, which is the only one there is. -/
def oneFile (text : String) : Files :=
  Function.update (fun _ => none) "/tmp/video_config.json" (some text)

/-- The globals of a start with one configuration file. -/
def startWith (text : String) (conf : PTree) : Globals :=
  .initial (.new (.ofText text conf) (oneFile text) "/tmp/video_config.json") (oneFile text)

/-- A stored 1 × 2 grid with a source in its second cell. -/
theorem readLayoutConf_isOk_smallText :
    (readLayoutConf { Globals.initial (confWithMode "fixed") fun _ => none with
      conf := .new (.ofText smallText smallTree) (oneFile smallText)
        "/tmp/video_config.json" }).IsOk ↔ Loadable smallTree := by
  have hfile : oneFile smallText "/tmp/video_config.json" = some smallText :=
    Function.update_self ..
  have hparse : (JsonParser.ofText smallText smallTree).readJson smallText = some smallTree :=
    JsonParser.readJson_ofText smallText smallTree smallTree
  exact readLayoutConf_isOk_iff _ _ _ _ _ hfile hparse _

/-- A stored layout without sources, and one whose only source is in row 1000. -/
def emptyLayout : PTree := .node "" [("layout", .empty)]

def rowThousand : PTree :=
  .node "" [("layout", .node "" [("cols", .leaf "1"), ("sources", .node "" [("",
    .node "" [("rowNo", .leaf "1000"), ("colNo", .leaf "0"), ("inputId", .leaf "5")])])])]

def rowThousandText : String :=
  "\x7b\"layout\": \x7b\"cols\": 1, \"sources\": [" ++
  "\x7b\"rowNo\": 1000, \"colNo\": 0, \"inputId\": 5\x7d]\x7d\x7d"

/-- A layout without sources throws, and a source of row 1000 is stored at index 1000. -/
theorem readLayoutConf_unchecked :
    readLayoutConf (startWith "\x7b\"layout\": \x7b\x7d\x7d" emptyLayout) =
        .error (.uncaught "ptree_bad_path") ∧
      readLayoutConf (startWith rowThousandText rowThousand) = .error (.outOfBounds 1000) :=
  ⟨rfl, rfl⟩

/-! ### Saving -/

/-- The children of the node have different keys. -/
def DistinctKeys (t : PTree) : Prop := (t.children.map Prod.fst).Nodup

instance (t : PTree) : Decidable (DistinctKeys t) := by
  unfold DistinctKeys
  infer_instance

/-- The keys of a layout that `write_layout_conf` stores. -/
def layoutKeys : List String := ["rows", "cols", "sources"]

/-- The save changed only the layout's own keys. -/
structure KeepsOtherKeys (before after : PTree) : Prop where
  find?_eq : ∀ key, key ≠ "layout" → after.find? key = before.find? key
  find?_layout_eq : ∀ layout, before.find? "layout" = some layout →
    ∃ layout', after.find? "layout" = some layout' ∧
      ∀ key, key ∉ layoutKeys → layout'.find? key = layout.find? key

theorem count_le_one_of_distinctKeys {t : PTree} (h : DistinctKeys t) (key : String) :
    t.count key ≤ 1 := by
  have hcount : t.count key = (t.children.map Prod.fst).count key := by
    rw [List.count, List.countP_map]
    rfl
  rw [hcount]
  exact List.nodup_iff_count_le_one.mp h key

/-- A layout that is built from nothing has no other keys. -/
theorem find?_layoutTree_empty {key : String} (h : key ∉ layoutKeys) (rows cols : Int32)
    (sources : PTree) : (layoutTree PTree.empty rows cols sources).find? key = none := by
  simp only [layoutKeys, List.mem_cons, List.not_mem_nil, or_false, not_or] at h
  obtain ⟨hrows, hcols, hsources⟩ := h
  rw [layoutTree, PTree.find?_putChild_of_ne _ hsources, PTree.putInt,
    PTree.find?_put_of_ne _ hcols, PTree.putInt, PTree.find?_put_of_ne _ hrows]
  rfl

/-- **Saving into any tree**: the save returns, writes the tree to its file and keeps every key but
`layout`; the other keys of a stored layout survive exactly when there are none. -/
theorem writeLayoutConf_keepsOtherKeys_iff (parser : JsonParser) (g : Globals)
    (hkeys : DistinctKeys g.conf.json) (hcols : 1 ≤ g.dstHorizontalBlks.toInt) :
    ∃ g', writeLayoutConf parser g = .ok g' ∧
      g'.files g.conf.mFileName = some (parser.writeJson g'.conf.json) ∧
      (∀ key, key ≠ "layout" → g'.conf.json.find? key = g.conf.json.find? key) ∧
      (KeepsOtherKeys g.conf.json g'.conf.json ↔
        ∀ layout, g.conf.json.find? "layout" = some layout →
          ∀ key, key ∉ layoutKeys → layout.find? key = none) := by
  have hwrite := writeLayoutConf_eq_ok parser (g := g) (CInt.ne_zero_of_pos hcols)
  generalize sourcesTree g.dstHorizontalBlks g.layerLayoutTab = sources at hwrite
  -- the guard of the copy asks for a second layout, which distinct keys rule out
  have hbase : baseLayout g.conf.json = PTree.empty := by
    have hcount := count_le_one_of_distinctKeys hkeys "layout"
    rw [baseLayout, if_neg (by omega)]
  have hlayout : (g.saved parser sources).conf.json.find? "layout" =
      some (layoutTree PTree.empty g.dstVerticalBlks g.dstHorizontalBlks sources) := by
    rw [← hbase]
    exact PTree.find?_putChild_self _ _ _
  have hother : ∀ key, key ≠ "layout" →
      (g.saved parser sources).conf.json.find? key = g.conf.json.find? key :=
    fun key hkey => find?_saved_of_ne g parser sources hkey
  refine ⟨_, hwrite, Function.update_self .., hother, ?_, ?_⟩
  · intro h layout hfound key hkey
    obtain ⟨layout', hfound', hkeep⟩ := h.find?_layout_eq layout hfound
    rw [hlayout] at hfound'
    obtain rfl := Option.some.inj hfound'
    rw [← hkeep key hkey, find?_layoutTree_empty hkey]
  · intro h
    refine ⟨hother, fun layout hfound => ⟨_, hlayout, fun key hkey => ?_⟩⟩
    rw [find?_layoutTree_empty hkey, h layout hfound key hkey]

/-- A 1 × 2 grid whose stored layout has a title. -/
def titledGrid : Globals :=
  { smallGrid with conf := smallGrid.conf.setJson (.node "" [("mvr_mode", .leaf "unfixed"),
      ("layout", .node "" [("title", .leaf "lobby"), ("rows", .leaf "1")])]) }

theorem writeLayoutConf_keepsOtherKeys_smallGrid :
    ∃ g', writeLayoutConf (.ofText smallText smallTree) smallGrid = .ok g' ∧
      g'.files smallGrid.conf.mFileName =
        some ((JsonParser.ofText smallText smallTree).writeJson g'.conf.json) ∧
      (∀ key, key ≠ "layout" → g'.conf.json.find? key = smallGrid.conf.json.find? key) ∧
      (KeepsOtherKeys smallGrid.conf.json g'.conf.json ↔
        ∀ layout, smallGrid.conf.json.find? "layout" = some layout →
          ∀ key, key ∉ layoutKeys → layout.find? key = none) :=
  writeLayoutConf_keepsOtherKeys_iff _ smallGrid (by decide) (by decide)

/-- The title of the stored layout is gone after the save. -/
theorem writeLayoutConf_loses_title :
    DistinctKeys titledGrid.conf.json ∧ 1 ≤ titledGrid.dstHorizontalBlks.toInt ∧
      ∃ g', writeLayoutConf (.ofText smallText smallTree) titledGrid = .ok g' ∧
        ¬ KeepsOtherKeys titledGrid.conf.json g'.conf.json := by
  refine ⟨by decide, by decide, _, writeLayoutConf_eq_ok _ (by decide), fun h => ?_⟩
  obtain ⟨layout', hfound, hkeep⟩ := h.find?_layout_eq _ rfl
  rw [show (titledGrid.saved (.ofText smallText smallTree) _).conf.json.find? "layout" = _ from
    PTree.find?_putChild_self _ _ _] at hfound
  obtain rfl := Option.some.inj hfound
  have htitle := hkeep "title" (by decide)
  rw [show baseLayout titledGrid.conf.json = PTree.empty from rfl,
    find?_layoutTree_empty (by decide)] at htitle
  cases htitle

end Mvr.Player
