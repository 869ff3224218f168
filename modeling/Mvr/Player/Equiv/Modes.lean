import Mvr.Player.Equiv.SaveLoad

/-!
# The three tests of `mvr_mode`

The loader takes its fixed branch when the mode is `"fixed"`; the reply is the stored layout when it
is `"unfixed"`, a missing key counting as that; a request is applied only when the key is there and
`"unfixed"` (`loadsFree_iff`, `reportsStored_iff`, `appliesUpdate_iff`).  The three agree exactly on
the configurations that name one of the two modes (`modesAgree_iff`).
-/

namespace Mvr.Player

/-- The layout of the fixed mode. -/
def Globals.fixedLayout (g : Globals) : Globals :=
  { g with
    viHorizontalBlks := 2, viVerticalBlks := 1
    dstHorizontalBlks := 1, dstVerticalBlks := 1
    layerLayoutTab := identityTab }

/-- `read_layout_conf` never takes its fixed branch. -/
def LoadsFree (conf : PTree) : Prop :=
  ∀ g : Globals, g.conf.json = conf → readLayoutConf g ≠ .ok g.fixedLayout

/-- `send_layout_cfg` reports the stored grid and table, and leaves them alone. -/
def ReportsStored (conf : PTree) : Prop :=
  ∀ g : Globals, g.conf.json = conf → sendLayoutCfg g = (do
    let pos ← layoutPos g.dstVerticalBlks g.dstHorizontalBlks g.layerLayoutTab
    pure (g, replyJson (conf.getString "mvr_mode" "unfixed") g.dstVerticalBlks
      g.dstHorizontalBlks pos))

/-- `ws_on_cli_read_text` stores and saves every accepted request. -/
def AppliesUpdate (conf : PTree) : Prop :=
  ∀ (parser : JsonParser) (g : Globals), g.conf.json = conf →
    ∀ json cfg, IsLayoutCfg json cfg → cfg.Accepted →
      ∃ reply, wsOnCliReadText parser g (some json) = .ok (g.applied parser cfg, some reply)

/-- The three paths agree on what the configuration allows. -/
def ModesAgree (conf : PTree) : Prop :=
  (LoadsFree conf ↔ ReportsStored conf) ∧ (ReportsStored conf ↔ AppliesUpdate conf)

/-! ### Each path on its own -/

/-- A program started with the configuration. -/
theorem exists_globals (conf : PTree) :
    ∃ g : Globals, g.conf.json = conf ∧ g.dstVerticalBlks = 8 :=
  ⟨.initial ⟨"/tmp/video_config.json", conf⟩ fun _ => none, rfl, rfl⟩

theorem readLayoutConf_of_fixed {g : Globals}
    (h : g.conf.json.getString "mvr_mode" "unfixed" = "fixed") :
    readLayoutConf g = .ok g.fixedLayout := if_pos h

/-- Outside the fixed mode the loader sets another input grid. -/
theorem viHorizontalBlks_of_readLayoutConf {g g' : Globals}
    (hmode : g.conf.json.getString "mvr_mode" "unfixed" ≠ "fixed")
    (h : readLayoutConf g = .ok g') : g'.viHorizontalBlks = 8 := by
  rcases readLayoutConf_cases h with ⟨hfixed, -⟩ | ⟨-, rows, cols, tab, rfl⟩
  · exact absurd hfixed hmode
  · rfl

theorem loadsFree_iff (conf : PTree) :
    LoadsFree conf ↔ conf.getString "mvr_mode" "unfixed" ≠ "fixed" := by
  constructor
  · intro h hmode
    obtain ⟨g, rfl, -⟩ := exists_globals conf
    exact h g rfl (readLayoutConf_of_fixed hmode)
  · rintro hmode g rfl h
    -- the two branches set different input grids
    have hvi := viHorizontalBlks_of_readLayoutConf hmode h
    exact absurd hvi (show (2 : Int32) ≠ 8 by decide)

/-- In any other mode the reply forces the 16 × 8 grid of the identity table. -/
theorem sendLayoutCfg_of_not_unfixed {g : Globals}
    (h : g.conf.json.getString "mvr_mode" "unfixed" ≠ "unfixed") :
    sendLayoutCfg g = .ok ({ g with layerLayoutTab := identityTab },
      replyJson (g.conf.json.getString "mvr_mode" "unfixed") 16 8
        ((records maxLayerNums 8 identityTab).map PosRecord.json)) := by
  unfold sendLayoutCfg
  dsimp only
  rw [if_neg h, layoutPos_eq_ok (by decide) (by decide)]
  rfl

theorem reportsStored_iff (conf : PTree) :
    ReportsStored conf ↔ conf.getString "mvr_mode" "unfixed" = "unfixed" := by
  constructor
  · intro h
    by_contra hmode
    obtain ⟨g, rfl, hrows⟩ := exists_globals conf
    have hsend := h g rfl
    rw [sendLayoutCfg_of_not_unfixed hmode] at hsend
    obtain ⟨pos, -, hpure⟩ := Checked.bind_eq_ok.mp hsend.symm
    -- the forced reply says 16 rows where the program starts with 8
    have hreply := congrArg Prod.snd (Except.ok.inj hpure)
    simp only [replyJson, CfJson.object.injEq, List.cons.injEq, Prod.mk.injEq, CfJson.int.injEq,
      true_and, and_true, hrows] at hreply
    exact absurd hreply.1.1 (by decide)
  · rintro hmode g rfl
    rw [sendLayoutCfg_of_unfixed hmode, hmode]

/-- A reply never changes the grid. -/
theorem dstVerticalBlks_of_sendLayoutCfg {g g' : Globals} {reply : CfJson}
    (h : sendLayoutCfg g = .ok (g', reply)) : g'.dstVerticalBlks = g.dstVerticalBlks := by
  by_cases hmode : g.conf.json.getString "mvr_mode" "unfixed" = "unfixed"
  · rw [sendLayoutCfg_fst hmode h]
  · rw [sendLayoutCfg_of_not_unfixed hmode] at h
    obtain rfl := congrArg Prod.fst (Except.ok.inj h)
    rfl

theorem appliesUpdate_iff (conf : PTree) : AppliesUpdate conf ↔ Editable conf := by
  constructor
  · intro h
    by_contra hedit
    -- a request for one row does not reach the initial eight
    have haccepted : (LayoutCfg.mk 1 1 []).Accepted :=
      ⟨⟨by decide, by decide, by decide⟩, fun r hr => absurd hr List.not_mem_nil⟩
    obtain ⟨g, rfl, hrows⟩ := exists_globals conf
    obtain ⟨reply, happly⟩ := h (.ofText "" .empty) g rfl _ _ (LayoutCfg.isLayoutCfg_json _)
      haccepted
    rw [wsOnCliReadText_of_isLayoutCfg _ _ (LayoutCfg.isLayoutCfg_json _), if_neg hedit,
      pure_bind, Checked.bind_eq_ok] at happly
    obtain ⟨⟨g', reply'⟩, hsend, hpure⟩ := happly
    obtain rfl : g' = g.applied _ _ := congrArg Prod.fst (Except.ok.inj hpure)
    have hkept := dstVerticalBlks_of_sendLayoutCfg hsend
    rw [hrows] at hkept
    exact absurd hkept (show (1 : Int32) ≠ 8 by decide)
  · rintro hedit parser g rfl json cfg hjson haccepted
    have hsaved : Editable (g.applied parser cfg).conf.json :=
      (editable_saved _ parser _).mpr hedit
    have hcells : ((g.applied parser cfg).dstVerticalBlks *
        (g.applied parser cfg).dstHorizontalBlks).toInt ≤ maxLayerNums := by
      have hle := haccepted.isGrid.cells_le_toNat
      have hmul := haccepted.isGrid.toInt_mul
      show (cfg.rows * cfg.cols).toInt ≤ maxLayerNums
      omega
    obtain ⟨⟨g', reply⟩, hsend⟩ := (sendLayoutCfg_isOk_iff hsaved.2).mpr hcells
    obtain rfl := sendLayoutCfg_fst hsaved.2 hsend
    refine ⟨reply, ?_⟩
    rw [wsOnCliReadText_of_isLayoutCfg parser g hjson, if_pos hedit,
      applyLayoutCfg_of_accepted parser g haccepted, Checked.ok_bind]
    dsimp only
    rw [hsend]
    rfl

/-! ### All three -/

/-- **The three tests agree** exactly when the mode is there and is one of the two. -/
theorem modesAgree_iff (conf : PTree) :
    ModesAgree conf ↔ 0 < conf.count "mvr_mode" ∧
      (conf.getString "mvr_mode" "unfixed" = "fixed" ∨
        conf.getString "mvr_mode" "unfixed" = "unfixed") := by
  unfold ModesAgree
  rw [loadsFree_iff, reportsStored_iff, appliesUpdate_iff, Editable]
  by_cases hfixed : conf.getString "mvr_mode" "unfixed" = "fixed"
  · have hcount : 0 < conf.count "mvr_mode" := by
      rw [PTree.count_pos_iff]
      unfold PTree.getString at hfixed
      cases hfind : conf.find? "mvr_mode" with
      | none =>
        rw [hfind] at hfixed
        exact absurd hfixed (by decide)
      | some c => rfl
    simp [hfixed, hcount]
  · simp only [hfixed, ne_eq, not_false_eq_true, true_iff, false_or]
    constructor
    · rintro ⟨hunfixed, happly⟩
      exact happly.mp hunfixed
    · rintro ⟨hcount, hunfixed⟩
      exact ⟨hunfixed, iff_of_true hunfixed ⟨hcount, hunfixed⟩⟩

/-- Without a mode the layout is loaded and reported but never updated; with any other text it is
loaded, and overwritten by the first query. -/
theorem modes_disagree :
    ¬ ModesAgree PTree.empty ∧ ¬ ModesAgree (confWithMode "mosaic").json := by
  unfold ModesAgree
  simp only [loadsFree_iff, reportsStored_iff, appliesUpdate_iff]
  exact ⟨fun h => absurd (h.2.mp rfl) (by decide), fun h => absurd (h.1.mp (by decide)) (by decide)⟩

end Mvr.Player
