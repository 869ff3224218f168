import Mvr.Player.Equiv.SaveLoad
import Mvr.Player.Equiv.Canonical
import Mvr.Player.NovaEncoderInit
import Mvr.Vif.Equiv.WebPara

/-!
# The layout after start-up

Whatever `read_layout_conf` loads, the set-up of channel 0 goes on with the identity layout of an
8 × 8 grid and hands that over (`novaEncoderInit_eq_ok_iff`).  A saved layout therefore never
survives a restart as a whole, and its grid does so exactly when it is this layout itself
(`novaEncoderInit_forgets`).
-/

namespace Mvr.Player

/-! ### The hand-off loop -/

/-- The attributes that the loop sets, in order. -/
def tabAttrs (l : List (Fin maxLayerNums)) : List (String × String) :=
  l.map fun i : Fin maxLayerNums => (Vif.tabKey i, decimalText (Int32.ofNat i))

theorem ofNat_ne_neg_one (i : Fin maxLayerNums) : Int32.ofNat i ≠ -1 := by
  intro h
  have hi := Vif.toInt_ofNat_layer i.isLt
  rw [h, show Int32.toInt (-1) = -1 from rfl] at hi
  omega

/-- The first assignment of a round. -/
def setOwnIndex (tab : LayoutTab) (i : Fin maxLayerNums) : LayoutTab :=
  tab.set i (Int32.ofNat i) i.isLt

/-- No round reaches the `break`: the table was just set to its own index. -/
theorem handOffLoop_eq (l : List (Fin maxLayerNums)) (tab : LayoutTab) (head : Element) :
    l.foldl handOffStep ⟨tab, head, false⟩ =
      ⟨l.foldl setOwnIndex tab,
        (tabAttrs l).foldl (fun e w => e.setAttr w.1 w.2) head, false⟩ := by
  induction l generalizing tab head with
  | nil => rfl
  | cons i l ih =>
    have hstep : handOffStep ⟨tab, head, false⟩ i = ⟨setOwnIndex tab i,
        head.setAttr (Vif.tabKey i) (decimalText (Int32.ofNat i)), false⟩ := by
      -- the entry that is tested is the index stored just before
      have hget : (tab.set i (Int32.ofNat i) i.isLt)[i] = Int32.ofNat i := by simp
      unfold handOffStep setOwnIndex
      simp only [hget, ne_eq, ofNat_ne_neg_one i, not_false_eq_true, if_true, Bool.false_eq_true,
        if_false]
      rfl
    rw [List.foldl_cons, hstep, ih]
    rfl

theorem getElem_foldl_setOwnIndex {l : List (Fin maxLayerNums)} (tab : LayoutTab) {i : ℕ}
    (hi : i < maxLayerNums) (h : ⟨i, hi⟩ ∈ l) :
    (l.foldl setOwnIndex tab)[i] = Int32.ofNat i := by
  induction l using List.reverseRecOn with
  | nil => cases h
  | append_singleton l j ih =>
    rw [List.foldl_append, List.foldl_cons, List.foldl_nil, setOwnIndex, Vector.getElem_set]
    split_ifs with hij
    · rw [hij]
    · rcases List.mem_append.mp h with hl | hj
      · exact ih hl
      · rw [List.mem_singleton] at hj
        exact absurd (congrArg Fin.val hj).symm hij

/-- The whole table is overwritten by the identity. -/
theorem foldl_setOwnIndex_finRange (tab : LayoutTab) :
    (List.finRange maxLayerNums).foldl setOwnIndex tab = identityTab := by
  ext i hi
  rw [getElem_foldl_setOwnIndex tab hi (List.mem_finRange _), identityTab, Vector.getElem_ofFn]

/-- The `vif` element after the hand-off. -/
def vifHead : Element :=
  (tabAttrs (List.finRange maxLayerNums)).foldl (fun e w => e.setAttr w.1 w.2) (vifAttrs 8 8)

/-! ### The set-up -/

/-- The globals with the identity layout of an 8 × 8 grid. -/
def Globals.reset (g : Globals) : Globals :=
  { g with dstHorizontalBlks := 8, dstVerticalBlks := 8, layerLayoutTab := identityTab }

/-- **The set-up**: it fails only with the loader, and what the loader did to the layout is
overwritten. -/
theorem novaEncoderInit_eq_ok_iff {g g' : Globals} {novaCfg : NovaEncoderCfg}
    {pipeline : Pipeline} :
    novaEncoderInit g novaCfg = .ok (g', pipeline) ↔
      ∃ g₁, readLayoutConf { g with layerLayoutTab := identityTab } = .ok g₁ ∧ g' = g₁.reset ∧
        pipeline = ⟨vifHead, vpeAttrs, vencAttrs novaCfg, rtspServerAttrs⟩ := by
  unfold novaEncoderInit
  rw [Checked.bind_eq_ok]
  apply exists_congr
  intro g₁
  apply and_congr_right
  intro _
  dsimp only
  rw [handOffLoop_eq, foldl_setOwnIndex_finRange]
  constructor
  · intro h
    obtain ⟨h1, h2⟩ := Prod.mk.inj (Except.ok.inj h)
    exact ⟨h1.symm, h2.symm⟩
  · rintro ⟨rfl, rfl⟩
    rfl

/-- The loader does not touch the configuration. -/
theorem conf_of_readLayoutConf {g g' : Globals} (h : readLayoutConf g = .ok g') :
    g'.conf = g.conf := by
  rcases readLayoutConf_cases h with ⟨-, rfl⟩ | ⟨-, rows, cols, tab, rfl⟩
  · rfl
  · rfl

theorem getElem_identityTab {i : ℕ} (hi : i < maxLayerNums) :
    identityTab[i] = Int32.ofNat i := by
  rw [identityTab, Vector.getElem_ofFn]

theorem entry_identityTab {i : ℕ} (hi : i < maxLayerNums) :
    entry identityTab i = some (Int32.ofNat i) := by
  rw [entry_of_lt _ hi, getElem_identityTab hi]
  exact if_neg (ofNat_ne_neg_one ⟨i, hi⟩)

/-! ### A saved layout after a restart -/

/-- The globals hold a layout. -/
structure Restores (g : Globals) (cfg : LayoutCfg) : Prop where
  dstVerticalBlks_eq : g.dstVerticalBlks = cfg.rows
  dstHorizontalBlks_eq : g.dstHorizontalBlks = cfg.cols
  shows : Shows g.layerLayoutTab cfg.layout

/-- The globals hold a layout as far as its grid goes. -/
structure RestoresGrid (g : Globals) (cfg : LayoutCfg) : Prop where
  dstVerticalBlks_eq : g.dstVerticalBlks = cfg.rows
  dstHorizontalBlks_eq : g.dstHorizontalBlks = cfg.cols
  entry_eq : ∀ i < cfg.layout.rows * cfg.layout.cols, entry g.layerLayoutTab i =
    cfg.layout.cell (i / cfg.layout.cols) (i % cfg.layout.cols)

/-- The identity layout of the 8 × 8 grid: the last record of every cell names its own index. -/
structure LayoutCfg.IsIdentity (cfg : LayoutCfg) : Prop where
  rows_eq : cfg.rows = 8
  cols_eq : cfg.cols = 8
  inputId_eq : ∀ i < 64, (cfg.lastOf (Int32.ofNat (i / 8)) (Int32.ofNat (i % 8))).map
    PosRecord.inputId = some (Int32.ofNat i)

/-- A cell of an 8 × 8 layout shows its own index exactly when its last record names it. -/
theorem LayoutCfg.Accepted.cell_eq_iff {cfg : LayoutCfg} (h : cfg.Accepted) (hrows : cfg.rows = 8)
    (hcols : cfg.cols = 8) {i : ℕ} (hi : i < 64) :
    cfg.layout.cell (i / 8) (i % 8) = some (Int32.ofNat i) ↔
      (cfg.lastOf (Int32.ofNat (i / 8)) (Int32.ofNat (i % 8))).map PosRecord.inputId =
        some (Int32.ofNat i) := by
  have h8 : Int32.toInt 8 = 8 := rfl
  have hmax : maxLayerNums = 128 := rfl
  have hne : Int32.ofNat i ≠ -1 := ofNat_ne_neg_one ⟨i, by omega⟩
  rw [h.layout_cell_eq (by rw [hrows, h8]; omega) (by rw [hcols, h8]; omega)]
  cases cfg.lastOf (Int32.ofNat (i / 8)) (Int32.ofNat (i % 8)) with
  | none => simp
  | some r => simp [sourceOf_eq_some_iff hne]

/-- The identity table shows the cells of a layout exactly when that is the identity layout. -/
theorem restoresGrid_reset_iff (g : Globals) {cfg : LayoutCfg} (h : cfg.Accepted) :
    RestoresGrid g.reset cfg ↔ cfg.IsIdentity := by
  have hmax : maxLayerNums = 128 := rfl
  have h8 : (8 : Int32).toInt.toNat = 8 := rfl
  have hentry : cfg.rows = 8 → cfg.cols = 8 → ∀ i < 64, (entry identityTab i =
      cfg.layout.cell (i / cfg.layout.cols) (i % cfg.layout.cols) ↔
      (cfg.lastOf (Int32.ofNat (i / 8)) (Int32.ofNat (i % 8))).map PosRecord.inputId =
        some (Int32.ofNat i)) := by
    intro hrows hcols i hi
    rw [entry_identityTab (by omega), eq_comm, LayoutCfg.layout_cols, hcols, h8,
      h.cell_eq_iff hrows hcols hi]
  constructor
  · rintro ⟨hrows, hcols, hcell⟩
    refine ⟨hrows.symm, hcols.symm, fun i hi => ?_⟩
    have hlt : i < cfg.layout.rows * cfg.layout.cols := by
      rw [LayoutCfg.layout_rows, LayoutCfg.layout_cols, ← hrows, ← hcols]
      exact hi
    exact (hentry hrows.symm hcols.symm i hi).mp (hcell i hlt)
  · rintro ⟨hrows, hcols, hinput⟩
    refine ⟨hrows.symm, hcols.symm, fun i hi => ?_⟩
    rw [LayoutCfg.layout_rows, LayoutCfg.layout_cols, hrows, hcols, h8] at hi
    exact (hentry hrows hcols i hi).mpr (hinput i hi)

/-- The last entry of the identity table is outside every 8 × 8 grid, so no layout is restored as a
whole. -/
theorem not_restores_reset (g : Globals) (cfg : LayoutCfg) : ¬ Restores g.reset cfg := by
  rintro ⟨hrows, hcols, hshows⟩
  have hmax : maxLayerNums = 128 := rfl
  -- a layout shows nothing at index 127, which holds 127
  have hentry := hshows 127 (by omega)
  rw [show g.reset.layerLayoutTab = identityTab from rfl, entry_identityTab (by omega),
    LayoutCfg.layout_rows, LayoutCfg.layout_cols, ← hrows, ← hcols,
    show g.reset.dstVerticalBlks.toInt.toNat = 8 from rfl,
    show g.reset.dstHorizontalBlks.toInt.toNat = 8 from rfl, if_neg (by omega)] at hentry
  cases hentry

theorem readLayoutConf_isOk_of_stores {g : Globals} {cfg : LayoutCfg}
    (hmode : g.conf.json.getString "mvr_mode" "unfixed" ≠ "fixed") (hs : Stores g.conf.json cfg)
    (h : cfg.Accepted) : (readLayoutConf g).IsOk := by
  have hrows : cfg.rows ≠ -1 := CInt.ne_neg_one_of_pos h.isGrid.rows_pos
  have hcols : cfg.cols ≠ -1 := CInt.ne_neg_one_of_pos h.isGrid.cols_pos
  -- the records that are not skipped lie inside the grid
  have hstore : cfg.loaded.store = .ok cfg.loaded.tab := LayoutCfg.store_eq_ok fun r hr =>
    (h.inGrid r (List.mem_filter.mp hr).1).index_mem h.isGrid
  rw [readLayoutConf_of_stores hmode hs hrows hcols, hstore]
  exact Checked.isOk_pure _

/-- The set-up runs on every tree that holds a layout, and resets the layout. -/
theorem novaEncoderInit_of_stores (g : Globals) (novaCfg : NovaEncoderCfg) {cfg : LayoutCfg}
    (hmode : g.conf.json.getString "mvr_mode" "unfixed" = "unfixed")
    (hstores : Stores g.conf.json cfg) (h : cfg.Accepted) :
    ∃ g₁ pipeline, novaEncoderInit g novaCfg = .ok (Globals.reset g₁, pipeline) := by
  have hmode' : g.conf.json.getString "mvr_mode" "unfixed" ≠ "fixed" := by
    rw [hmode]
    decide
  obtain ⟨g₁, hread⟩ := readLayoutConf_isOk_of_stores
    (g := { g with layerLayoutTab := identityTab }) hmode' hstores h
  exact ⟨g₁, _, novaEncoderInit_eq_ok_iff.mpr ⟨g₁, hread, rfl, rfl⟩⟩

/-- **A saved layout does not survive a restart**: the set-up runs, its table never is the stored
one, and its grid is so only for the identity layout. -/
theorem novaEncoderInit_forgets (g : Globals) (novaCfg : NovaEncoderCfg) (cfg : LayoutCfg)
    (hmode : g.conf.json.getString "mvr_mode" "unfixed" = "unfixed")
    (hstores : Stores g.conf.json cfg) (h : cfg.Accepted) :
    ∃ g' pipeline, novaEncoderInit g novaCfg = .ok (g', pipeline) ∧ ¬ Restores g' cfg ∧
      (RestoresGrid g' cfg ↔ cfg.IsIdentity) := by
  obtain ⟨g₁, pipeline, hinit⟩ := novaEncoderInit_of_stores g novaCfg hmode hstores h
  exact ⟨_, pipeline, hinit, not_restores_reset g₁ cfg, restoresGrid_reset_iff g₁ h⟩

/-- The program started on the file of the 1 × 2 grid. -/
def smallStart : Globals := .initial ⟨"/tmp/video_config.json", smallTree⟩ fun _ => none

theorem stores_smallTree : Stores smallTree ⟨1, 2, [⟨0, 1, 5⟩]⟩ := by
  refine ⟨_, _, rfl, by decide, by decide, rfl, ?_⟩
  exact .cons ⟨by decide, by decide, by decide⟩ .nil

theorem accepted_smallCfg : LayoutCfg.Accepted ⟨1, 2, [⟨0, 1, 5⟩]⟩ := by
  refine ⟨⟨by decide, by decide, by decide⟩, fun r hr => ?_⟩
  obtain rfl := List.mem_singleton.mp hr
  exact ⟨by decide, by decide, by decide, by decide⟩

theorem novaEncoderInit_forgets_smallStart :
    ∃ g' pipeline, novaEncoderInit smallStart ⟨15, 2000, 30⟩ = .ok (g', pipeline) ∧
      ¬ Restores g' ⟨1, 2, [⟨0, 1, 5⟩]⟩ ∧
      (RestoresGrid g' ⟨1, 2, [⟨0, 1, 5⟩]⟩ ↔ LayoutCfg.IsIdentity ⟨1, 2, [⟨0, 1, 5⟩]⟩) :=
  novaEncoderInit_forgets smallStart ⟨15, 2000, 30⟩ _ (by decide) stores_smallTree
    accepted_smallCfg

/-- The stored grid of one row starts as a grid of eight. -/
theorem novaEncoderInit_loses_row :
    smallStart.conf.json.getString "mvr_mode" "unfixed" = "unfixed" ∧
      Stores smallStart.conf.json ⟨1, 2, [⟨0, 1, 5⟩]⟩ ∧
      LayoutCfg.Accepted ⟨1, 2, [⟨0, 1, 5⟩]⟩ ∧
      ∃ g' pipeline, novaEncoderInit smallStart ⟨15, 2000, 30⟩ = .ok (g', pipeline) ∧
        g'.dstVerticalBlks = 8 ∧ ¬ Restores g' ⟨1, 2, [⟨0, 1, 5⟩]⟩ := by
  refine ⟨by decide, stores_smallTree, accepted_smallCfg, ?_⟩
  obtain ⟨g₁, pipeline, hinit⟩ := novaEncoderInit_of_stores smallStart ⟨15, 2000, 30⟩ (by decide)
    stores_smallTree accepted_smallCfg
  refine ⟨_, pipeline, hinit, rfl, fun h => ?_⟩
  exact absurd h.dstVerticalBlks_eq (show (8 : Int32) ≠ 1 by decide)

end Mvr.Player
