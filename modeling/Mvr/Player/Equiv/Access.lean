import Mvr.Player.Equiv.Handler

/-!
# Where the handler leaves the table

`ws_on_cli_read_text` stores whatever index a record gives, divides by whatever number of columns
it was told, and scans as many cells as the stored grid claims to have.  A run over any messages
keeps to the table and never divides by zero exactly when every request `Fits`
(`wsRun_access_iff`); one record outside the table is enough to leave it
(`wsRun_record_outside_table`).

The invariant is `Settled`: the configuration is editable, and the grid that the last message left
behind does not exceed the table.
-/

namespace Mvr.Player

/-! ### Storing a request -/

/-- The table holds the input of the last record of each index. -/
theorem LayoutCfg.getElem_tab_lastAt {cfg : LayoutCfg} (h : ∀ r ∈ cfg.pos, 0 ≤ r.index cfg.cols)
    {i : ℕ} (hi : i < maxLayerNums) :
    cfg.tab[i] = ((cfg.lastAt i).map PosRecord.inputId).getD (-1) := by
  have hfilter : cfg.pos.filter (fun r => (r.index cfg.cols).toNat = i)
      = cfg.pos.filter fun r => r.index cfg.cols = (i : ℤ) := by
    apply List.filter_congr
    intro r hr
    rw [decide_eq_decide]
    have hnn := h r hr
    omega
  rw [LayoutCfg.getElem_tab, lastWrite_map, hfilter]
  rfl

theorem LayoutCfg.mem_of_mem_lastAt {cfg : LayoutCfg} {i : ℤ} {r : PosRecord}
    (h : r ∈ cfg.lastAt i) : r ∈ cfg.pos ∧ r.index cfg.cols = i := by
  have hmem := List.mem_of_getLast? h
  rw [List.mem_filter, decide_eq_true_eq] at hmem
  exact hmem

/-- The table shows nothing exactly when every last record is an empty one. -/
theorem LayoutCfg.tab_empty_iff {cfg : LayoutCfg}
    (h : ∀ r ∈ cfg.pos, 0 ≤ r.index cfg.cols ∧ r.index cfg.cols < maxLayerNums) :
    (∀ i < maxLayerNums, entry cfg.tab i = none) ↔
      ∀ i, ∀ r ∈ cfg.lastAt i, r.inputId = -1 := by
  have hget : ∀ i : ℕ, ∀ hi : i < maxLayerNums,
      cfg.tab[i] = ((cfg.lastAt i).map PosRecord.inputId).getD (-1) := fun i hi =>
    LayoutCfg.getElem_tab_lastAt (fun r hr => (h r hr).1) hi
  constructor
  · intro hnone i r hr
    obtain ⟨hmem, hidx⟩ := LayoutCfg.mem_of_mem_lastAt hr
    obtain ⟨h0, h1⟩ := h r hmem
    -- the record is the one the table shows at its index
    have hi : i.toNat < maxLayerNums := by omega
    have htab := (entry_eq_none_iff hi).mp (hnone i.toNat hi)
    rw [hget i.toNat hi, Int.toNat_of_nonneg (by omega), hr] at htab
    exact htab
  · intro hall i hi
    rw [entry_eq_none_iff hi, hget i hi]
    cases hlast : cfg.lastAt i with
    | none => rfl
    | some r => exact hall i r hlast

theorem applyLayoutCfg_isOk_iff (parser : JsonParser) (g : Globals) (cfg : LayoutCfg) :
    (applyLayoutCfg parser g cfg).IsOk ↔
      (∀ r ∈ cfg.pos, 0 ≤ r.index cfg.cols ∧ r.index cfg.cols < maxLayerNums) ∧
      (cfg.cols = 0 → ∀ i, ∀ r ∈ cfg.lastAt i, r.inputId = -1) := by
  unfold applyLayoutCfg
  rw [Checked.isOk_bind_iff]
  constructor
  · rintro ⟨tab, htab, hwrite⟩
    have hidx := cfg.store_isOk_iff.mp ⟨tab, htab⟩
    rw [LayoutCfg.store_eq_ok hidx] at htab
    obtain rfl : cfg.tab = tab := Except.ok.inj htab
    refine ⟨hidx, fun hcols => ?_⟩
    -- the save divides for every entry, so without columns there may be none
    rw [writeLayoutConf_isOk_iff] at hwrite
    rcases hwrite with hne | hnone
    · exact absurd hcols hne
    · exact (LayoutCfg.tab_empty_iff hidx).mp hnone
  · rintro ⟨hidx, hcols⟩
    refine ⟨cfg.tab, LayoutCfg.store_eq_ok hidx, ?_⟩
    rw [writeLayoutConf_isOk_iff]
    by_cases h0 : cfg.cols = 0
    · exact Or.inr ((LayoutCfg.tab_empty_iff hidx).mpr (hcols h0))
    · exact Or.inl h0

/-- A request leaves its own grid behind, and the configuration as editable as it was. -/
theorem applyLayoutCfg_eq_ok {parser : JsonParser} {g g' : Globals} {cfg : LayoutCfg}
    (h : applyLayoutCfg parser g cfg = .ok g') :
    g'.dstVerticalBlks = cfg.rows ∧ g'.dstHorizontalBlks = cfg.cols ∧
      (Editable g'.conf.json ↔ Editable g.conf.json) := by
  unfold applyLayoutCfg at h
  simp only [Checked.bind_eq_ok, writeLayoutConf_eq] at h
  obtain ⟨tab, -, sources, -, hpure⟩ := h
  obtain rfl := Except.ok.inj hpure
  exact ⟨rfl, rfl, editable_saved _ parser sources⟩

theorem applyLayoutCfg_faultsIn (parser : JsonParser) (g : Globals) (cfg : LayoutCfg) :
    (applyLayoutCfg parser g cfg).FaultsIn Fault.IsAccess := by
  unfold applyLayoutCfg LayoutCfg.store
  exact (Checked.foldlM_faultsIn _ fun tab r _ => Checked.set_faultsIn _ _ _).bind fun tab _ =>
    writeLayoutConf_faultsIn _ _

/-! ### One message -/

/-- The configuration is editable and the grid does not exceed the table. -/
structure Settled (g : Globals) : Prop where
  editable : Editable g.conf.json
  cells_le : (g.dstVerticalBlks * g.dstHorizontalBlks).toInt ≤ maxLayerNums

theorem wsStep_of_isQueryCfg (parser : JsonParser) (g : Globals) {json : CfJson}
    (h : IsQueryCfg json) :
    wsStep parser g json = (do let (g, _) ← sendLayoutCfg g; pure g) := by
  rw [wsStep, wsOnCliReadText_of_isQueryCfg parser g h, bind_assoc]
  rfl

theorem wsStep_of_isLayoutCfg (parser : JsonParser) {g : Globals} {json : CfJson}
    {cfg : LayoutCfg} (hedit : Editable g.conf.json) (h : IsLayoutCfg json cfg) :
    wsStep parser g json = (do
      let g ← applyLayoutCfg parser g cfg
      let (g, _) ← sendLayoutCfg g
      pure g) := by
  rw [wsStep, wsOnCliReadText_of_isLayoutCfg parser g h, if_pos hedit, bind_assoc]
  simp only [bind_assoc]
  rfl

/-- A reply on its own, when the mode is `"unfixed"`. -/
theorem sendStep_eq_ok_iff {g g' : Globals} (hedit : Editable g.conf.json) :
    (do let (g, _) ← sendLayoutCfg g; pure g : Checked Globals) = .ok g' ↔
      (g.dstVerticalBlks * g.dstHorizontalBlks).toInt ≤ maxLayerNums ∧ g' = g := by
  rw [Checked.bind_eq_ok, ← sendLayoutCfg_isOk_iff hedit.2]
  constructor
  · rintro ⟨⟨g₁, reply⟩, hsend, hpure⟩
    obtain rfl := sendLayoutCfg_fst hedit.2 hsend
    exact ⟨⟨_, hsend⟩, (Except.ok.inj hpure).symm⟩
  · rintro ⟨⟨⟨g₁, reply⟩, hsend⟩, rfl⟩
    obtain rfl := sendLayoutCfg_fst hedit.2 hsend
    exact ⟨_, hsend, rfl⟩

section Step

variable (parser : JsonParser) {g g' : Globals} {json : CfJson} {req : Request}

/-- A message is handled without a fault exactly when its request fits. -/
theorem wsStep_isOk_iff (hg : Settled g) (h : Encodes json req) :
    (wsStep parser g json).IsOk ↔ req.Fits := by
  cases req with
  | queryCfg =>
    rw [wsStep_of_isQueryCfg parser g h]
    exact iff_of_true ⟨g, (sendStep_eq_ok_iff hg.editable).mpr ⟨hg.cells_le, rfl⟩⟩ trivial
  | layoutCfg cfg =>
    rw [wsStep_of_isLayoutCfg parser hg.editable h, Checked.isOk_bind_iff]
    constructor
    · rintro ⟨g₁, happly, g₂, hsend⟩
      obtain ⟨hidx, hcols⟩ := (applyLayoutCfg_isOk_iff parser g cfg).mp ⟨g₁, happly⟩
      -- the reply scans the grid of the request, which is in place by now
      obtain ⟨hr, hc, hedit⟩ := applyLayoutCfg_eq_ok happly
      obtain ⟨hle, -⟩ := (sendStep_eq_ok_iff (hedit.mpr hg.editable)).mp hsend
      rw [hr, hc] at hle
      exact ⟨hidx, hle, hcols⟩
    · rintro ⟨hidx, hle, hcols⟩
      obtain ⟨g₁, happly⟩ := (applyLayoutCfg_isOk_iff parser g cfg).mpr ⟨hidx, hcols⟩
      obtain ⟨hr, hc, hedit⟩ := applyLayoutCfg_eq_ok happly
      rw [← hr, ← hc] at hle
      exact ⟨g₁, happly, g₁, (sendStep_eq_ok_iff (hedit.mpr hg.editable)).mpr ⟨hle, rfl⟩⟩

/-- A message that is handled leaves a settled state behind. -/
theorem settled_of_wsStep_eq_ok (hg : Settled g) (h : Encodes json req)
    (hok : wsStep parser g json = .ok g') : Settled g' := by
  cases req with
  | queryCfg =>
    rw [wsStep_of_isQueryCfg parser g h, sendStep_eq_ok_iff hg.editable] at hok
    obtain ⟨-, rfl⟩ := hok
    exact hg
  | layoutCfg cfg =>
    rw [wsStep_of_isLayoutCfg parser hg.editable h, Checked.bind_eq_ok] at hok
    obtain ⟨g₁, happly, hsend⟩ := hok
    obtain ⟨-, -, hedit⟩ := applyLayoutCfg_eq_ok happly
    obtain ⟨hle, rfl⟩ := (sendStep_eq_ok_iff (hedit.mpr hg.editable)).mp hsend
    exact ⟨hedit.mpr hg.editable, hle⟩

/-- All that can go wrong with a request is an access. -/
theorem wsStep_faultsIn (hedit : Editable g.conf.json) (h : Encodes json req) :
    (wsStep parser g json).FaultsIn Fault.IsAccess := by
  have hsend : ∀ g, (do let (g, _) ← sendLayoutCfg g; pure g : Checked Globals).FaultsIn
      Fault.IsAccess := fun g =>
    (sendLayoutCfg_faultsIn g).bind fun _ _ => Checked.faultsIn_ok _ _
  cases req with
  | queryCfg =>
    rw [wsStep_of_isQueryCfg parser g h]
    exact hsend g
  | layoutCfg cfg =>
    rw [wsStep_of_isLayoutCfg parser hedit h]
    exact (applyLayoutCfg_faultsIn parser g cfg).bind fun g _ => hsend g

end Step

/-! ### Runs -/

theorem wsRun_cons (parser : JsonParser) (g : Globals) (json : CfJson) (messages : List CfJson) :
    wsRun parser g (json :: messages) = (do
      let g ← wsStep parser g json
      wsRun parser g messages) := List.foldlM_cons

theorem wsRun_isOk_iff (parser : JsonParser) {g : Globals} (hg : Settled g)
    {messages : List CfJson} {reqs : List Request} (h : List.Forall₂ Encodes messages reqs) :
    (wsRun parser g messages).IsOk ↔ ∀ req ∈ reqs, req.Fits := by
  induction h generalizing g with
  | nil => simp [wsRun]
  | cons henc _ ih =>
    have hstep := wsStep_isOk_iff parser hg henc
    rw [wsRun_cons, Checked.isOk_bind_iff, List.forall_mem_cons, ← hstep]
    constructor
    · rintro ⟨g₁, hok, hrest⟩
      exact ⟨⟨g₁, hok⟩, (ih (settled_of_wsStep_eq_ok parser hg henc hok)).mp hrest⟩
    · rintro ⟨⟨g₁, hok⟩, hrest⟩
      exact ⟨g₁, hok, (ih (settled_of_wsStep_eq_ok parser hg henc hok)).mpr hrest⟩

theorem wsRun_faultsIn (parser : JsonParser) {g : Globals} (hg : Settled g)
    {messages : List CfJson} {reqs : List Request} (h : List.Forall₂ Encodes messages reqs) :
    (wsRun parser g messages).FaultsIn Fault.IsAccess := by
  induction h generalizing g with
  | nil => exact Checked.faultsIn_ok _ _
  | cons henc _ ih =>
    rw [wsRun_cons]
    exact (wsStep_faultsIn parser hg.editable henc).bind fun g₁ hok =>
      ih (settled_of_wsStep_eq_ok parser hg henc hok)

theorem IsGrid.settled {g : Globals} (hgrid : IsGrid g.dstVerticalBlks g.dstHorizontalBlks)
    (hedit : Editable g.conf.json) : Settled g where
  editable := hedit
  cells_le := by
    have hle := hgrid.cells_le_toNat
    have hmul := hgrid.toInt_mul
    omega

/-- **The handler's accesses**: from a grid that fits the table, a run over any requests makes no
access outside the table and no division by zero exactly when all of them fit. -/
theorem wsRun_access_iff (parser : JsonParser) (g : Globals)
    (hgrid : IsGrid g.dstVerticalBlks g.dstHorizontalBlks) (hedit : Editable g.conf.json)
    (messages : List CfJson) (reqs : List Request) (h : List.Forall₂ Encodes messages reqs) :
    ((wsRun parser g messages).FaultsIn fun e => ¬ e.IsAccess) ↔ ∀ req ∈ reqs, req.Fits := by
  have hg : Settled g := hgrid.settled hedit
  rw [← Checked.isOk_iff_faultsIn_not (wsRun_faultsIn parser hg h), wsRun_isOk_iff parser hg h]

/-- A 1 × 2 grid with one of its cells named twice, then a query. -/
theorem wsRun_access_small_grid :
    ((wsRun (.ofText "\x7b\x7d\n" .empty) (.initial (confWithMode "unfixed") fun _ => none)
        [LayoutCfg.json ⟨1, 2, [⟨0, 1, 5⟩, ⟨0, 1, -1⟩, ⟨0, 0, 3⟩]⟩,
          .object [("topic", .string "query_cfg")]]).FaultsIn fun e => ¬ e.IsAccess) ↔
      ∀ req ∈ [Request.layoutCfg ⟨1, 2, [⟨0, 1, 5⟩, ⟨0, 1, -1⟩, ⟨0, 0, 3⟩]⟩, .queryCfg],
        req.Fits :=
  wsRun_access_iff _ _ ⟨by decide, by decide, by decide⟩ (by decide) _ _
    (.cons (LayoutCfg.isLayoutCfg_json _) (.cons rfl .nil))

/-- A record of row 1000 is stored at index 1000, far outside the table. -/
theorem wsRun_record_outside_table :
    IsGrid (Globals.initial (confWithMode "unfixed") fun _ => none).dstVerticalBlks
        (Globals.initial (confWithMode "unfixed") fun _ => none).dstHorizontalBlks ∧
      Editable (Globals.initial (confWithMode "unfixed") fun _ => none).conf.json ∧
      Encodes (LayoutCfg.json ⟨1, 1, [⟨1000, 0, 5⟩]⟩) (.layoutCfg ⟨1, 1, [⟨1000, 0, 5⟩]⟩) ∧
      ¬ (wsRun (.ofText "\x7b\x7d\n" .empty) (.initial (confWithMode "unfixed") fun _ => none)
        [LayoutCfg.json ⟨1, 1, [⟨1000, 0, 5⟩]⟩]).FaultsIn fun e => ¬ e.IsAccess := by
  refine ⟨⟨by decide, by decide, by decide⟩, by decide, LayoutCfg.isLayoutCfg_json _, ?_⟩
  intro h
  exact h (.outOfBounds 1000) rfl trivial

end Mvr.Player
