import Mvr.Player.Equiv.Access
import Mvr.Player.Equiv.SaveLoad

/-!
# A request replaces the layout

The handler does not look at a request before it applies it: the grid may be empty or negative, and
a record may name a cell outside the grid.  As long as the request `Fits` the table nothing stops
the handler, and grid, table and saved configuration are those of the request afterwards
(`wsOnCliReadText_replaces`), whether a client would be well advised to send it or not.
-/

namespace Mvr.Player

theorem records_eq_nil {tab : LayoutTab} (h : ∀ i < maxLayerNums, entry tab i = none)
    (cols : Int32) : records maxLayerNums cols tab = [] := by
  refine List.filterMap_eq_nil_iff.mpr fun i hi => ?_
  rw [recordAt, h i (List.mem_range.mp hi)]
  rfl

/-- Whenever the loop over the table returns, it has gathered the records. -/
theorem layoutSources_of_isOk {cols : Int32} {tab : LayoutTab}
    (h : (layoutSources cols tab).IsOk) :
    layoutSources cols tab = .ok (sourcesTree cols tab) := by
  rcases (layoutSources_isOk_iff cols tab).mp h with hc | hnone
  · exact layoutSources_eq_ok hc tab
  · -- without an entry there is nothing to divide, and no record
    have hloop : layoutSources cols tab =
        .ok ((List.range maxLayerNums).foldl (fun sources _ => sources) PTree.empty) := by
      rw [layoutSources_eq_gather]
      refine Checked.foldlM_eq_ok _ fun sources i hi => ?_
      have hlt := List.mem_range.mp hi
      rw [gatherStep_of_lt _ hlt, if_pos ((entry_eq_none_iff hlt).mp (hnone i hlt))]
      rfl
    rw [hloop, List.foldl_fixed, sourcesTree, records_eq_nil hnone]
    rfl

/-- A request that fits is applied. -/
theorem applyLayoutCfg_of_fits (parser : JsonParser) (g : Globals) {cfg : LayoutCfg}
    (h : cfg.Fits) : applyLayoutCfg parser g cfg = .ok (g.applied parser cfg) := by
  obtain ⟨tab, hstore⟩ := cfg.store_isOk_iff.mpr h.index_mem
  rw [LayoutCfg.store_eq_ok h.index_mem] at hstore
  have hsources : (layoutSources cfg.cols cfg.tab).IsOk := by
    rw [layoutSources_isOk_iff]
    by_cases hc : cfg.cols = 0
    · exact Or.inr ((LayoutCfg.tab_empty_iff h.index_mem).mpr (h.inputId_eq hc))
    · exact Or.inl hc
  rw [applyLayoutCfg, LayoutCfg.store_eq_ok h.index_mem, Checked.ok_bind, writeLayoutConf_eq,
    layoutSources_of_isOk hsources]
  rfl

/-- A message whose request fits is handled: the request is applied and answered. -/
theorem wsOnCliReadText_of_fits (parser : JsonParser) {g : Globals} {json : CfJson}
    {cfg : LayoutCfg} (hedit : Editable g.conf.json) (h : IsLayoutCfg json cfg) (hfits : cfg.Fits) :
    ∃ reply, wsOnCliReadText parser g (some json) = .ok (g.applied parser cfg, some reply) := by
  have hedit' : Editable (g.applied parser cfg).conf.json :=
    (editable_saved _ parser _).mpr hedit
  obtain ⟨⟨g', reply⟩, hsend⟩ := (sendLayoutCfg_isOk_iff hedit'.2).mpr hfits.cells_le
  obtain rfl := sendLayoutCfg_fst hedit'.2 hsend
  refine ⟨reply, ?_⟩
  rw [wsOnCliReadText_of_isLayoutCfg parser g h, if_pos hedit,
    applyLayoutCfg_of_fits parser g hfits, Checked.ok_bind]
  dsimp only
  rw [hsend, Checked.ok_bind]
  rfl

/-- The layout of a request has taken the place of the one before. -/
structure Replaces (parser : JsonParser) (g : Globals) (cfg : LayoutCfg) (g' : Globals) : Prop where
  dstVerticalBlks_eq : g'.dstVerticalBlks = cfg.rows
  dstHorizontalBlks_eq : g'.dstHorizontalBlks = cfg.cols
  /-- The last record of each index, and -1 where there is none. -/
  getElem_layerLayoutTab : ∀ i (hi : i < maxLayerNums),
    g'.layerLayoutTab[i] = ((cfg.lastAt i).map PosRecord.inputId).getD (-1)
  /-- The tree holds the new layout, and its other keys are those it had. -/
  stores : Stores g'.conf.json g'.savedCfg
  find?_eq : ∀ key, key ≠ "layout" → g'.conf.json.find? key = g.conf.json.find? key
  files_eq : g'.files =
    Function.update g.files g.conf.mFileName (some (parser.writeJson g'.conf.json))

/-- **A request replaces the layout**: from any editable state a request that fits the table is
applied as a whole, also when its grid is not one or its records lie outside it. -/
theorem wsOnCliReadText_replaces (parser : JsonParser) (g : Globals)
    (hedit : Editable g.conf.json) (json : CfJson) (cfg : LayoutCfg) (h : IsLayoutCfg json cfg)
    (hfits : cfg.Fits) :
    ∃ g' reply, wsOnCliReadText parser g (some json) = .ok (g', some reply) ∧
      Replaces parser g cfg g' := by
  obtain ⟨reply, hread⟩ := wsOnCliReadText_of_fits parser hedit h hfits
  refine ⟨_, reply, hread, rfl, rfl, fun i hi => ?_, stores_saved parser _, fun key hkey => ?_, rfl⟩
  · exact LayoutCfg.getElem_tab_lastAt (fun r hr => (hfits.index_mem r hr).1) hi
  · exact find?_saved_of_ne _ parser _ hkey

/-- A 1 × 2 grid with a record in its sixth column. -/
def strayRecord : LayoutCfg := ⟨1, 2, [⟨0, 5, 7⟩]⟩

theorem fits_strayRecord : strayRecord.Fits := by
  refine ⟨by decide, by decide, fun h => ?_⟩
  cases h

theorem wsOnCliReadText_replaces_strayRecord :
    ∃ g' reply, wsOnCliReadText (.ofText smallText smallTree) smallGrid
        (some strayRecord.json) = .ok (g', some reply) ∧
      Replaces (.ofText smallText smallTree) smallGrid strayRecord g' :=
  wsOnCliReadText_replaces _ smallGrid (by decide) _ _ strayRecord.isLayoutCfg_json
    fits_strayRecord

/-- The record outside its grid is stored and saved: nothing of the state is as it was. -/
theorem wsOnCliReadText_strayRecord :
    Editable unfixedStart.conf.json ∧ IsLayoutCfg strayRecord.json strayRecord ∧
      (∃ r ∈ strayRecord.pos, ¬ r.InGrid strayRecord.rows strayRecord.cols) ∧
      ∃ g' reply, wsOnCliReadText (.ofText smallText smallTree) unfixedStart
          (some strayRecord.json) = .ok (g', some reply) ∧
        g'.dstVerticalBlks ≠ unfixedStart.dstVerticalBlks ∧
        g'.dstHorizontalBlks ≠ unfixedStart.dstHorizontalBlks ∧
        g'.layerLayoutTab ≠ unfixedStart.layerLayoutTab ∧
        g'.conf.json ≠ unfixedStart.conf.json ∧ g'.files ≠ unfixedStart.files := by
  have hedit : Editable unfixedStart.conf.json := by decide
  obtain ⟨reply, hread⟩ := wsOnCliReadText_of_fits (.ofText smallText smallTree) hedit
    strayRecord.isLayoutCfg_json fits_strayRecord
  refine ⟨hedit, strayRecord.isLayoutCfg_json, ⟨⟨0, 5, 7⟩, List.mem_singleton.mpr rfl, ?_⟩,
    _, reply, hread, by decide, by decide, by decide +kernel, fun hconf => ?_, fun hfiles => ?_⟩
  · rintro ⟨-, -, -, hlt⟩
    exact absurd hlt (by decide)
  · -- the layout is stored now
    have hone : (unfixedStart.applied (.ofText smallText smallTree)
        strayRecord).conf.json.count "layout" = 1 := PTree.count_putChild_self _ _ _
    rw [hconf] at hone
    exact absurd hone (by decide)
  · -- and there is a file
    have hsome : ((unfixedStart.applied (.ofText smallText smallTree) strayRecord).files
        "/tmp/video_config.json").isSome := by decide +kernel
    rw [hfiles] at hsome
    exact absurd hsome (by decide)

end Mvr.Player
