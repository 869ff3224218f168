import Mvr.Player.EarlyClients
import Mvr.Player.Equiv.Register

/-!
# What early clients meet

The grid that a client finds during the start-up is that of the last layout, with as many of its
numbers overwritten as the start-up has got to (`Tracks`).  A query is answered unless one of the
two numbers is overwritten and the other is too large for it (`serve_isOk_iff`); the second of these
windows has no end but the next layout.  Where no client asks for a layout, the start-up ends as if
it were alone (`novaEncoderInit_of_run`).
-/

namespace Mvr.Player.EarlyClients

variable {parser : JsonParser} {g g₁ : Globals} {s s' : System} {h : History} {l : Label}
  {tr : List Label} {ks : List (Option Register.Call)} {c : ServerCall} {k : Register.Call}

/-! ### The grid -/

/-- The number of assignments of the grid that were made. -/
def Pc.assignments : Pc → ℕ
  | .setHorizontalBlks => 0
  | .setVerticalBlks => 1
  | _ => 2

/-- What a statement does to the grid. -/
structure SetsGrid (s s' : System) : Prop where
  conf_eq : s'.g.conf = s.g.conf
  assignments_eq : s'.pc.assignments = min (s.pc.assignments + 1) 2
  rows_eq : s'.g.dstVerticalBlks = if s.pc.assignments = 1 then 8 else s.g.dstVerticalBlks
  cols_eq : s'.g.dstHorizontalBlks = if s.pc.assignments = 0 then 8 else s.g.dstHorizontalBlks

theorem setsGrid_of_setUp (h : setUp s = some s') : SetsGrid s s' := by
  obtain ⟨g, head, pc⟩ := s
  cases pc with
  | test i =>
    unfold setUp at h
    dsimp only at h
    split_ifs at h with htest
    all_goals
      obtain rfl := Option.some.inj h
      exact ⟨rfl, rfl, rfl, rfl⟩
  | attrTab i =>
    obtain rfl := Option.some.inj h
    refine ⟨rfl, ?_, rfl, rfl⟩
    unfold nextLayer
    split_ifs <;> rfl
  | done => cases h
  | _ =>
    obtain rfl := Option.some.inj h
    exact ⟨rfl, rfl, rfl, rfl⟩

/-- The grid is that of the last layout, as far as the start-up has not overwritten it. -/
structure Tracks (s : System) (h : History) : Prop where
  editable : Editable s.g.conf.json
  rows_pos : 1 ≤ h.rows
  cols_pos : 1 ≤ h.cols
  cells_le : h.rows * h.cols ≤ maxLayerNums
  before_le : h.before ≤ h.statements
  assignments_eq : s.pc.assignments = min h.statements 2
  rows_eq : s.g.dstVerticalBlks.toInt = if h.before ≤ 1 ∧ 2 ≤ h.statements then 8 else (h.rows : ℤ)
  cols_eq : s.g.dstHorizontalBlks.toInt =
    if h.before = 0 ∧ 1 ≤ h.statements then 8 else (h.cols : ℤ)

theorem tracks_init (hedit : Editable g.conf.json)
    (hgrid : IsGrid g.dstVerticalBlks g.dstHorizontalBlks) : Tracks (init g) (history g []) := by
  have hrows := hgrid.rows_pos
  have hcols := hgrid.cols_pos
  have hcells := hgrid.cells_le_toNat
  have hstatements : (history g []).statements = 0 := rfl
  refine ⟨hedit, ?_, ?_, hcells, le_rfl, rfl, ?_, ?_⟩
  · show 1 ≤ g.dstVerticalBlks.toInt.toNat
    omega
  · show 1 ≤ g.dstHorizontalBlks.toInt.toNat
    omega
  · rw [if_neg (by omega)]
    exact (Int.toNat_of_nonneg (zero_le_one.trans hrows)).symm
  · rw [if_neg (by omega)]
    exact (Int.toNat_of_nonneg (zero_le_one.trans hcols)).symm

theorem Tracks.setUp (ht : Tracks s h) (hs : SetsGrid s s') : Tracks s' (h.after none) := by
  have h8 : Int32.toInt 8 = 8 := rfl
  have hbefore := ht.before_le
  have hassign := ht.assignments_eq
  refine ⟨?_, ht.rows_pos, ht.cols_pos, ht.cells_le, ?_, ?_, ?_, ?_⟩
  · rw [hs.conf_eq]
    exact ht.editable
  · show h.before ≤ h.statements + 1
    omega
  · rw [hs.assignments_eq, hassign]
    show _ = min (h.statements + 1) 2
    omega
  · show _ = if h.before ≤ 1 ∧ 2 ≤ h.statements + 1 then _ else _
    rw [hs.rows_eq, hassign]
    by_cases hone : h.statements = 1
    · rw [if_pos (by omega), if_pos (by omega), h8]
    · rw [if_neg (by omega), ht.rows_eq]
      exact if_congr (by omega) rfl rfl
  · show _ = if h.before = 0 ∧ 1 ≤ h.statements + 1 then _ else _
    rw [hs.cols_eq, hassign]
    by_cases hzero : h.statements = 0
    · rw [if_pos (by omega), if_pos (by omega), h8]
    · rw [if_neg (by omega), ht.cols_eq]
      exact if_congr (by omega) rfl rfl

theorem Tracks.call {g' : Globals} {reply : Option CfJson} (ht : Tracks s h) (hmeans : Means c k)
    (hok : serve parser s.g c = .ok (g', reply)) :
    Tracks { s with g := g' } (h.after (some k)) := by
  cases k with
  | read =>
    obtain rfl := eq_of_serve_read ht.editable hmeans hok
    exact ht
  | skip =>
    rw [serve_of_skip parser s.g hmeans] at hok
    obtain ⟨rfl, -⟩ := Prod.mk.inj (Except.ok.inj hok)
    exact ht
  | write L =>
    obtain ⟨cfg, hcfg, rfl, reply', hserve, -⟩ := serve_of_write parser ht.editable hmeans
    obtain ⟨rfl, -⟩ := Prod.mk.inj (Except.ok.inj (hserve.symm.trans hok))
    have hrows := hcfg.isGrid.rows_pos
    have hcols := hcfg.isGrid.cols_pos
    refine ⟨(editable_applied parser s.g cfg).mpr ht.editable, ?_, ?_,
      hcfg.isGrid.cells_le_toNat, le_rfl, ht.assignments_eq, ?_, ?_⟩
    · show 1 ≤ cfg.rows.toInt.toNat
      omega
    · show 1 ≤ cfg.cols.toInt.toNat
      omega
    · show cfg.rows.toInt = if h.statements ≤ 1 ∧ 2 ≤ h.statements then 8 else _
      rw [if_neg (by omega)]
      exact (Int.toNat_of_nonneg (by omega)).symm
    · show cfg.cols.toInt = if h.statements = 0 ∧ 1 ≤ h.statements then 8 else _
      rw [if_neg (by omega)]
      exact (Int.toNat_of_nonneg (by omega)).symm

theorem Tracks.step {o : Option Register.Call} (ht : Tracks s h) (hasks : Asks l o)
    (hs : Step parser s l s') : Tracks s' (h.after o) := by
  cases hasks with
  | setUp =>
    cases hs with
    | setUp hset => exact ht.setUp (setsGrid_of_setUp hset)
  | call hmeans =>
    cases hs with
    | call hok => exact ht.call hmeans hok

theorem asks_append_singleton (h : List.Forall₂ Asks (tr ++ [l]) ks) :
    ∃ ks' o, ks = ks' ++ [o] ∧ List.Forall₂ Asks tr ks' ∧ Asks l o := by
  rw [← List.forall₂_reverse_iff, List.reverse_append] at h
  obtain ⟨o, ks', ho, hks', heq⟩ := List.forall₂_cons_left_iff.mp h
  refine ⟨ks'.reverse, o, ?_, ?_, ho⟩
  · rw [← List.reverse_reverse ks, heq, List.reverse_cons]
  · rw [← List.forall₂_reverse_iff, List.reverse_reverse]
    exact hks'

theorem tracks_of_run (hedit : Editable g.conf.json)
    (hgrid : IsGrid g.dstVerticalBlks g.dstHorizontalBlks)
    (hrun : Run (Step parser) (init g) tr s) (hks : List.Forall₂ Asks tr ks) :
    Tracks s (history g ks) := by
  refine hrun.invariant (fun tr s => ∀ ks, List.Forall₂ Asks tr ks → Tracks s (history g ks))
    ?_ ?_ ks hks
  · intro ks hnil
    obtain rfl := List.forall₂_nil_left_iff.mp hnil
    exact tracks_init hedit hgrid
  · intro tr s l s' _ ih hs ks hks
    obtain ⟨ks', o, rfl, hks', ho⟩ := asks_append_singleton hks
    unfold history
    rw [List.foldl_append, List.foldl_cons, List.foldl_nil]
    exact (ih ks' hks').step ho hs

/-- The cells of the grid are entries of the table, unless the grid is one of two layouts. -/
theorem Tracks.cells_le_iff (ht : Tracks s h) :
    (s.g.dstVerticalBlks * s.g.dstHorizontalBlks).toInt ≤ maxLayerNums ↔ ¬ h.Overruns := by
  have hmax : maxLayerNums = 128 := rfl
  have hrows_pos := ht.rows_pos
  have hcols_pos := ht.cols_pos
  have hcells := ht.cells_le
  have hrows_le : h.rows ≤ 128 := (Nat.le_mul_of_pos_right h.rows hcols_pos).trans hcells
  have hcols_le : h.cols ≤ 128 := (Nat.le_mul_of_pos_left h.cols hrows_pos).trans hcells
  have hrows := ht.rows_eq
  have hcols := ht.cols_eq
  have hbefore := ht.before_le
  have hrows_pos' : 0 ≤ s.g.dstVerticalBlks.toInt := by omega
  have hcols_pos' : 0 ≤ s.g.dstHorizontalBlks.toInt := by omega
  have hlt : s.g.dstVerticalBlks.toInt * s.g.dstHorizontalBlks.toInt ≤ 128 * 128 :=
    mul_le_mul (by omega) (by omega) hcols_pos' (by omega)
  have hnonneg : 0 ≤ s.g.dstVerticalBlks.toInt * s.g.dstHorizontalBlks.toInt :=
    mul_nonneg hrows_pos' hcols_pos'
  rw [CInt.toInt_mul_of_lt (by omega) (by omega), hrows, hcols]
  unfold History.Overruns
  by_cases hr : h.before ≤ 1 ∧ 2 ≤ h.statements
  · rw [if_pos hr]
    by_cases hc : h.before = 0 ∧ 1 ≤ h.statements
    · rw [if_pos hc]
      omega
    · rw [if_neg hc]
      omega
  · rw [if_neg hr]
    by_cases hc : h.before = 0 ∧ 1 ≤ h.statements
    · rw [if_pos hc]
      omega
    · rw [if_neg hc]
      have hcells' : (h.rows : ℤ) * h.cols ≤ maxLayerNums := by exact_mod_cast hcells
      refine iff_of_true hcells' ?_
      omega

/-- **The clients that come early**: in every interleaving of the start-up with calls of the
protocol, a call is answered unless it reads the layout in one of the two windows. -/
theorem serve_isOk_iff (hedit : Editable g.conf.json)
    (hgrid : IsGrid g.dstVerticalBlks g.dstHorizontalBlks)
    (hrun : Run (Step parser) (init g) tr s) (hks : List.Forall₂ Asks tr ks)
    (hmeans : Means c k) :
    (serve parser s.g c).IsOk ↔ (k = .read → ¬ (history g ks).Overruns) := by
  have ht := tracks_of_run hedit hgrid hrun hks
  cases k with
  | read =>
    rw [serve_of_read parser s.g hmeans, Checked.isOk_bind_iff, ← ht.cells_le_iff,
      ← sendLayoutCfg_isOk_iff ht.editable.2]
    constructor
    · rintro ⟨r, hsend, -⟩ -
      exact ⟨r, hsend⟩
    · intro hok
      obtain ⟨r, hsend⟩ := hok rfl
      exact ⟨r, hsend, Checked.isOk_pure _⟩
  | skip =>
    rw [serve_of_skip parser s.g hmeans]
    exact iff_of_true (Checked.isOk_ok _) fun hk => by cases hk
  | write L =>
    obtain ⟨cfg, -, -, reply, hserve, -⟩ := serve_of_write parser ht.editable hmeans
    rw [hserve]
    exact iff_of_true (Checked.isOk_ok _) fun hk => by cases hk

/-- A request for the 1 × 17 grid without pictures. -/
def wideCfg : LayoutCfg := ⟨1, 17, []⟩

theorem accepted_wideCfg : wideCfg.Accepted :=
  ⟨⟨by decide, by decide, by decide⟩, List.forall_mem_nil _⟩

/-- The request comes between the two assignments of the grid. -/
def wideTrace : List Label := [.setUp, .call (.cliReadText (some wideCfg.json)), .setUp]

theorem asks_wideTrace :
    List.Forall₂ Asks wideTrace [none, some (.write wideCfg.layout), none] :=
  .cons .setUp (.cons (.call (.layout wideCfg.isLayoutCfg_json accepted_wideCfg))
    (.cons .setUp .nil))

theorem exists_run_wideTrace (parser : JsonParser) :
    ∃ s, Run (Step parser) (init unfixedStart) wideTrace s := by
  have hedit : Editable unfixedStart.conf.json := by decide
  exact ⟨_, .cons (.setUp rfl) (.cons (.call (wsOnCliReadText_of_accepted parser
    { unfixedStart with dstHorizontalBlks := 8 } hedit wideCfg.isLayoutCfg_json accepted_wideCfg))
    (.cons (.setUp rfl) .nil))⟩

/-- The next client finds a grid of 8 × 17 cells, and is not answered. -/
theorem serve_isOk_iff_wideTrace :
    ∃ s, Run (Step (.ofText smallText smallTree)) (init unfixedStart) wideTrace s ∧
      ¬ (serve (.ofText smallText smallTree) s.g .newWebsocket).IsOk := by
  obtain ⟨s, hrun⟩ := exists_run_wideTrace (.ofText smallText smallTree)
  refine ⟨s, hrun, fun hok => ?_⟩
  have hgrid : IsGrid unfixedStart.dstVerticalBlks unfixedStart.dstHorizontalBlks :=
    ⟨by decide, by decide, by decide⟩
  exact (serve_isOk_iff (by decide) hgrid hrun asks_wideTrace .newWebsocket).mp hok rfl
    (Or.inr ⟨rfl, le_rfl, show 16 < 17 by decide⟩)

/-! ### A start-up that is left alone -/

/-- A message that changes the layout where it is allowed. -/
def IsLayoutCall (c : ServerCall) : Prop :=
  ∃ json, c = .cliReadText (some json) ∧ json.getString "topic" = .ok "layout_cfg"

/-- A call that does not change the layout leaves the globals as they are, or resets the table. -/
theorem tab_of_serve {g' : Globals} {reply : Option CfJson}
    (hquiet : Editable g.conf.json → ¬ IsLayoutCall c)
    (h : serve parser g c = .ok (g', reply)) :
    g' = g ∨ g' = { g with layerLayoutTab := identityTab } := by
  have hsend : ∀ r, sendLayoutCfg g = .ok (g', r) →
      g' = g ∨ g' = { g with layerLayoutTab := identityTab } := by
    intro r hok
    by_cases hmode : g.conf.json.getString "mvr_mode" "unfixed" = "unfixed"
    · exact Or.inl (sendLayoutCfg_fst hmode hok)
    · rw [sendLayoutCfg_of_not_unfixed hmode] at hok
      exact Or.inr (congrArg Prod.fst (Except.ok.inj hok)).symm
  cases c with
  | newWebsocket =>
    obtain ⟨⟨g₂, r⟩, hok, hpure⟩ := Checked.bind_eq_ok.mp h
    obtain ⟨rfl, -⟩ := Prod.mk.inj (Except.ok.inj hpure)
    exact hsend r hok
  | cliReadText json =>
    have hquiet' : Editable g.conf.json → ∀ j, json = some j →
        j.getString "topic" ≠ .ok "layout_cfg" := fun hedit j hj htopic =>
      hquiet hedit ⟨j, congrArg ServerCall.cliReadText hj, htopic⟩
    rcases wsOnCliReadText_quiet hquiet' h with ⟨rfl, -⟩ | ⟨r, -, hok⟩
    · exact Or.inl rfl
    · exact hsend r hok

/-- The attributes of the grid. -/
def gridAttrs : List (String × String) :=
  [("dst_horizontal_blks", toString (8 : Int32)), ("dst_vertical_blks", toString (8 : Int32)),
    ("layNum", "64")]

/-- The attributes of the layout that were set. -/
def Pc.attrs : Pc → List (String × String)
  | .attrVerticalBlks => gridAttrs.take 1
  | .assign i => gridAttrs ++ tabAttrs ((List.finRange maxLayerNums).take i)
  | .test i => gridAttrs ++ tabAttrs ((List.finRange maxLayerNums).take i)
  | .attrTab i => gridAttrs ++ tabAttrs ((List.finRange maxLayerNums).take i)
  | .done => gridAttrs ++ tabAttrs (List.finRange maxLayerNums)
  | _ => []

/-- The entries of the table that were assigned. -/
def Pc.assigned : Pc → ℕ
  | .assign i => i
  | .test i => i + 1
  | .attrTab i => i + 1
  | .done => maxLayerNums
  | _ => 0

theorem attrs_nextLayer (i : Fin maxLayerNums) : (nextLayer i).attrs =
    (Pc.attrTab i).attrs ++ [(Vif.tabKey i, decimalText (Int32.ofNat i))] := by
  have htake : (List.finRange maxLayerNums).take (i + 1) =
      (List.finRange maxLayerNums).take i ++ [i] := by
    rw [List.take_succ_eq_append_getElem (by rw [List.length_finRange]; exact i.isLt),
      List.getElem_finRange]
    rfl
  have hnext : (nextLayer i).attrs =
      gridAttrs ++ tabAttrs ((List.finRange maxLayerNums).take (i + 1)) := by
    unfold nextLayer
    split_ifs with hlt
    · rfl
    · rw [List.take_of_length_le (by rw [List.length_finRange]; omega)]
      rfl
  rw [hnext, htake, tabAttrs, List.map_append, ← List.append_assoc]
  rfl

theorem assigned_nextLayer (i : Fin maxLayerNums) :
    (nextLayer i).assigned = i + 1 := by
  unfold nextLayer
  split_ifs with hlt
  · rfl
  · show maxLayerNums = i + 1
    omega

/-- The start-up has done what it does alone. -/
structure Alone (g₁ : Globals) (s : System) : Prop where
  globals_eq : s.g = { g₁ with
    dstHorizontalBlks := s.g.dstHorizontalBlks
    dstVerticalBlks := s.g.dstVerticalBlks
    layerLayoutTab := s.g.layerLayoutTab }
  rows_eq : 2 ≤ s.pc.assignments → s.g.dstVerticalBlks = 8
  cols_eq : 1 ≤ s.pc.assignments → s.g.dstHorizontalBlks = 8
  entry_eq : ∀ i (hi : i < maxLayerNums), i < s.pc.assigned →
    s.g.layerLayoutTab[i] = Int32.ofNat i
  head_eq : s.mElemHead = s.pc.attrs.foldl (fun e w => e.setAttr w.1 w.2) headAttrs

theorem alone_init (g₁ : Globals) : Alone g₁ (init g₁) :=
  ⟨rfl, fun h => absurd h (Nat.not_succ_le_zero 1), fun h => absurd h (Nat.not_succ_le_zero 0),
    fun i _ h => absurd h (Nat.not_lt_zero i), rfl⟩

/-- The loop goes on. -/
theorem Alone.entry_ne {i : Fin maxLayerNums} (ha : Alone g₁ s) (hpc : s.pc = .test i) :
    s.g.layerLayoutTab.get i ≠ -1 := by
  have hentry : s.g.layerLayoutTab.get i = Int32.ofNat i := by
    refine ha.entry_eq i i.isLt ?_
    rw [hpc]
    exact Nat.lt_succ_self i
  rw [hentry]
  exact ofNat_ne_neg_one i

theorem Alone.setUp (ha : Alone g₁ s) (h : setUp s = some s') : Alone g₁ s' := by
  have htest := @ha.entry_ne
  obtain ⟨g, head, pc⟩ := s
  obtain ⟨hg, hrows, hcols, hentry, hhead⟩ := ha
  cases pc with
  | setHorizontalBlks =>
    obtain rfl := Option.some.inj h
    exact ⟨congrArg (fun g => { g with dstHorizontalBlks := 8 }) hg,
      fun h => absurd h (Nat.not_succ_le_self 1), fun _ => rfl, hentry, hhead⟩
  | setVerticalBlks =>
    obtain rfl := Option.some.inj h
    exact ⟨congrArg (fun g => { g with dstVerticalBlks := 8 }) hg, fun _ => rfl,
      fun _ => hcols le_rfl, hentry, hhead⟩
  | attrHorizontalBlks =>
    obtain rfl := Option.some.inj h
    have hcols8 : g.dstHorizontalBlks = 8 := hcols one_le_two
    have hhead0 : head = headAttrs := hhead
    refine ⟨hg, hrows, hcols, hentry, ?_⟩
    rw [hhead0, hcols8]
    rfl
  | attrVerticalBlks =>
    obtain rfl := Option.some.inj h
    have hrows8 : g.dstVerticalBlks = 8 := hrows le_rfl
    have hhead1 : head = (gridAttrs.take 1).foldl (fun e w => e.setAttr w.1 w.2) headAttrs := hhead
    refine ⟨hg, hrows, hcols, hentry, ?_⟩
    rw [hhead1, hrows8]
    rfl
  | assign i =>
    obtain rfl := Option.some.inj h
    refine ⟨congrArg (fun g => { g with
      layerLayoutTab := g.layerLayoutTab.set i (Int32.ofNat i) i.isLt }) hg, hrows, hcols,
      fun j hj hlt => ?_, hhead⟩
    have hlt' : j < i + 1 := hlt
    show (g.layerLayoutTab.set i (Int32.ofNat i) i.isLt)[j] = Int32.ofNat j
    rw [Vector.getElem_set]
    split_ifs with hij
    · rw [hij]
    · exact hentry j hj (show j < i by omega)
  | test i =>
    obtain rfl := Option.some.inj ((if_pos (htest i rfl)).symm.trans h)
    exact ⟨hg, hrows, hcols, hentry, hhead⟩
  | attrTab i =>
    have hentry_i : g.layerLayoutTab.get i = Int32.ofNat i :=
      hentry i i.isLt (Nat.lt_succ_self i)
    obtain rfl := Option.some.inj h
    refine ⟨hg, fun _ => hrows le_rfl, fun _ => hcols one_le_two,
      fun j hj hlt => hentry j hj ?_, ?_⟩
    · rw [assigned_nextLayer] at hlt
      exact hlt
    · show _ = (nextLayer i).attrs.foldl _ _
      rw [attrs_nextLayer, List.foldl_append, List.foldl_cons, List.foldl_nil, ← hhead, hentry_i]
      rfl
  | done => cases h

theorem Alone.call {g' : Globals} {reply : Option CfJson} (ha : Alone g₁ s)
    (hquiet : Editable g₁.conf.json → ¬ IsLayoutCall c)
    (h : serve parser s.g c = .ok (g', reply)) : Alone g₁ { s with g := g' } := by
  have hconf : s.g.conf = g₁.conf := by rw [ha.globals_eq]
  rw [← hconf] at hquiet
  rcases tab_of_serve hquiet h with rfl | rfl
  · exact ha
  · exact ⟨congrArg (fun g => { g with layerLayoutTab := identityTab }) ha.globals_eq, ha.rows_eq,
      ha.cols_eq, fun i hi _ => getElem_identityTab hi, ha.head_eq⟩

theorem alone_of_run (hrun : Run (Step parser) (init g₁) tr s)
    (hquiet : Editable g₁.conf.json → ∀ c, .call c ∈ tr → ¬ IsLayoutCall c) : Alone g₁ s := by
  refine hrun.invariant
    (fun tr s => (Editable g₁.conf.json → ∀ c, .call c ∈ tr → ¬ IsLayoutCall c) → Alone g₁ s)
    (fun _ => alone_init g₁) ?_ hquiet
  intro tr s l s' _ ih hs hquiet
  have ha : Alone g₁ s := ih fun hedit c hmem => hquiet hedit c (List.mem_append_left _ hmem)
  cases hs with
  | setUp hset => exact ha.setUp hset
  | call hok =>
    exact ha.call (fun hedit => hquiet hedit _
      (List.mem_append_right _ (List.mem_singleton.mpr rfl))) hok

/-- The statements that are left. -/
def Pc.left : Pc → ℕ
  | .setHorizontalBlks => 3 * maxLayerNums + 4
  | .setVerticalBlks => 3 * maxLayerNums + 3
  | .attrHorizontalBlks => 3 * maxLayerNums + 2
  | .attrVerticalBlks => 3 * maxLayerNums + 1
  | .assign i => 3 * (maxLayerNums - i)
  | .test i => 3 * (maxLayerNums - i) - 1
  | .attrTab i => 3 * (maxLayerNums - i) - 2
  | .done => 0

theorem left_nextLayer (i : Fin maxLayerNums) : (nextLayer i).left + 1 = (Pc.attrTab i).left := by
  have hi := i.isLt
  unfold nextLayer
  split_ifs with hlt
  · show 3 * (maxLayerNums - (i + 1)) + 1 = 3 * (maxLayerNums - i) - 2
    omega
  · show 0 + 1 = 3 * (maxLayerNums - i) - 2
    omega

/-- The start-up never stops before its end. -/
theorem Alone.exists_setUp {n : ℕ} (ha : Alone g₁ s) (hleft : s.pc.left = n + 1) :
    ∃ s', EarlyClients.setUp s = some s' ∧ s'.pc.left = n := by
  have htest := @ha.entry_ne
  obtain ⟨g, head, pc⟩ := s
  cases pc with
  | assign i =>
    refine ⟨_, rfl, ?_⟩
    have hleft' : 3 * (maxLayerNums - i) = n + 1 := hleft
    show 3 * (maxLayerNums - i) - 1 = n
    omega
  | test i =>
    refine ⟨_, if_pos (htest i rfl), ?_⟩
    have hleft' : 3 * (maxLayerNums - i) - 1 = n + 1 := hleft
    show 3 * (maxLayerNums - i) - 2 = n
    omega
  | attrTab i =>
    refine ⟨_, rfl, ?_⟩
    exact Nat.succ.inj ((left_nextLayer i).trans hleft)
  | done => cases hleft
  | _ => exact ⟨_, rfl, Nat.succ.inj hleft⟩

/-- The start-up ends when no client comes any more. -/
theorem Alone.exists_run (parser : JsonParser) (ha : Alone g₁ s) : ∃ s',
    Run (Step parser) s (List.replicate s.pc.left .setUp) s' ∧ s'.pc.left = 0 := by
  induction hleft : s.pc.left generalizing s with
  | zero => exact ⟨s, .nil, hleft⟩
  | succ n ih =>
    obtain ⟨s', hset, hleft'⟩ := ha.exists_setUp hleft
    obtain ⟨s'', hrun, hdone⟩ := ih (ha.setUp hset) hleft'
    exact ⟨s'', .cons (.setUp hset) hrun, hdone⟩

theorem pc_eq_done_iff {pc : Pc} : pc.left = 0 ↔ pc = .done := by
  constructor
  · intro h
    cases pc with
    | assign i =>
      have h' : 3 * (maxLayerNums - i) = 0 := h
      omega
    | test i =>
      have h' : 3 * (maxLayerNums - i) - 1 = 0 := h
      omega
    | attrTab i =>
      have h' : 3 * (maxLayerNums - i) - 2 = 0 := h
      omega
    | done => rfl
    | _ => cases h
  · rintro rfl
    rfl

/-- **Clients that only look do not disturb**: where no layout is asked for, or none is allowed, the
start-up ends in the same globals and elements as without clients, however the calls come in
between and whatever they hold. -/
theorem novaEncoderInit_of_run (novaCfg : NovaEncoderCfg)
    (hread : readLayoutConf { g with layerLayoutTab := identityTab } = .ok g₁)
    (hrun : Run (Step parser) (init g₁) tr s)
    (hquiet : Editable g₁.conf.json → ∀ c, .call c ∈ tr → ¬ IsLayoutCall c)
    (hdone : s.pc = .done) :
    novaEncoderInit g novaCfg =
      .ok (s.g, ⟨s.mElemHead, vpeAttrs, vencAttrs novaCfg, rtspServerAttrs⟩) := by
  obtain ⟨hg, hrows, hcols, hentry, hhead⟩ := alone_of_run hrun hquiet
  rw [hdone] at hrows hcols hentry hhead
  have htab : s.g.layerLayoutTab = identityTab := by
    ext i hi
    rw [hentry i hi hi, getElem_identityTab hi]
  rw [novaEncoderInit_eq_ok_iff]
  refine ⟨g₁, hread, ?_, ?_⟩
  · rw [htab, hrows le_rfl, hcols one_le_two] at hg
    exact hg
  · have hvif : vifAttrs 8 8 = gridAttrs.foldl (fun e w => e.setAttr w.1 w.2) headAttrs := rfl
    rw [hhead, vifHead, hvif, ← List.foldl_append, Pc.attrs]

/-- The program after it has read a file without a layout. -/
def loadedStart : Globals := { unfixedStart with layerLayoutTab := identityTab }

/-- A client connects before the first statement. -/
theorem step_loadedStart (parser : JsonParser) :
    Step parser (init loadedStart) (.call .newWebsocket) (init loadedStart) := by
  have hedit : Editable loadedStart.conf.json := by decide
  have hcells : ((8 : Int32) * 8).toInt ≤ maxLayerNums := by decide
  obtain ⟨⟨g', reply⟩, hsend⟩ := (sendLayoutCfg_isOk_iff hedit.2).mpr hcells
  obtain rfl := sendLayoutCfg_fst hedit.2 hsend
  exact .call (Checked.bind_eq_ok.mpr ⟨_, hsend, rfl⟩)

theorem novaEncoderInit_of_run_loadedStart : ∃ tr s, .call .newWebsocket ∈ tr ∧
    Run (Step (.ofText smallText smallTree)) (init loadedStart) tr s ∧
    novaEncoderInit unfixedStart ⟨15, 2000, 30⟩ =
      .ok (s.g, ⟨s.mElemHead, vpeAttrs, vencAttrs ⟨15, 2000, 30⟩, rtspServerAttrs⟩) := by
  obtain ⟨s, hrun, hdone⟩ := Alone.exists_run (.ofText smallText smallTree) (alone_init loadedStart)
  have hrun' := hrun.cons (step_loadedStart _)
  refine ⟨_, s, List.mem_cons_self, hrun', ?_⟩
  refine novaEncoderInit_of_run ⟨15, 2000, 30⟩ rfl hrun' (fun _ c hmem => ?_)
    (pc_eq_done_iff.mp hdone)
  rcases List.mem_cons.mp hmem with heq | hmem
  · obtain rfl := Label.call.inj heq
    rintro ⟨json, hcall, -⟩
    cases hcall
  · cases List.eq_of_mem_replicate hmem

end Mvr.Player.EarlyClients
