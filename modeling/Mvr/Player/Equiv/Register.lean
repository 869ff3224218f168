import Mvr.Player.Equiv.Canonical
import Mvr.Player.Equiv.Modes
import Mvr.Player.Equiv.StartUp
import Mvr.Player.Register

/-!
# The clients see a register

Whatever the clients send, each answer is the one the register gives: the program refines it
(`refines_register`), also from the start-up on.  Once a layout was written the file holds the
layout of the register at all times, so that a new start loads it (`readLayoutConf_of_serveAll`).
And a configuration that does not allow changes never changes (`serveAll_frozen`).
-/

namespace Mvr.Player

open Mvr.Sequential (Refines run_preserves)

/-! ### Reading -/

/-- The records of the cells of a grid are the canonical writes of the layout it holds. -/
theorem records_of_holds {g : Globals} {L : GridLayout Int32} (h : HoldsLayout g L) :
    records (g.dstVerticalBlks * g.dstHorizontalBlks).toInt.toNat g.dstHorizontalBlks
      g.layerLayoutTab = L.writes.map PosRecord.ofWrite := by
  have hmax : maxLayerNums = 128 := rfl
  have hle := h.isGrid.cells_le_toNat
  have hcols := h.isGrid.cols_pos
  unfold records GridLayout.writes
  rw [h.isGrid.toInt_mul, ← h.rows_eq, ← h.cols_eq, List.map_filterMap]
  rw [← h.rows_eq, ← h.cols_eq] at hle
  apply List.filterMap_congr
  intro i hi
  have hcell : i < L.rows * L.cols := List.mem_range.mp hi
  unfold recordAt GridLayout.writeAt
  rw [h.entry_eq i hcell, CInt.ofNat_div (by omega) (by omega),
    CInt.ofNat_mod (by omega) (by omega), ← h.cols_eq, Option.map_map]
  rfl

/-- The layout is reported as it is held. -/
theorem sendLayoutCfg_of_holds {g : Globals} {L : GridLayout Int32} (h : HoldsLayout g L) :
    ∃ reply, sendLayoutCfg g = .ok (g, reply) ∧ Reports (some reply) (some L) := by
  have hmax : maxLayerNums = 128 := rfl
  have hcols : g.dstHorizontalBlks ≠ 0 := CInt.ne_zero_of_pos h.isGrid.cols_pos
  have hcells : (g.dstVerticalBlks * g.dstHorizontalBlks).toInt.toNat ≤ maxLayerNums := by
    rw [h.isGrid.toInt_mul]
    exact h.isGrid.cells_le_toNat
  have hrows_pos := h.isGrid.rows_pos
  have hcols_pos := h.isGrid.cols_pos
  rw [sendLayoutCfg_of_unfixed h.editable.2, layoutPos_eq_ok hcells hcols, records_of_holds h]
  refine ⟨_, rfl, ?_⟩
  unfold Reports
  rw [Option.map_some, h.rows_eq, h.cols_eq, CInt.ofNat_toNat (by omega),
    CInt.ofNat_toNat (by omega)]
  rfl

/-! ### The refinement -/

/-- An accepted request is held as the layout it asks for. -/
theorem holds_applied (parser : JsonParser) {g : Globals} {cfg : LayoutCfg}
    (hedit : Editable g.conf.json) (h : cfg.Accepted) :
    HoldsLayout (g.applied parser cfg) cfg.layout := by
  refine ⟨(editable_applied parser g cfg).mpr hedit, h.isGrid, rfl, rfl, fun i hi => ?_⟩
  have hmax : maxLayerNums = 128 := rfl
  have hle := h.isGrid.cells_le_toNat
  rw [LayoutCfg.layout_rows, LayoutCfg.layout_cols] at hi
  have hshows := h.shows_tab i (by omega)
  rw [LayoutCfg.layout_rows, LayoutCfg.layout_cols, if_pos hi] at hshows
  exact hshows

/-- A message without a topic of the protocol is ignored. -/
theorem wsOnCliReadText_of_skip (parser : JsonParser) (g : Globals) {json : Option CfJson}
    (h : Means (.cliReadText json) .skip) : wsOnCliReadText parser g json = .ok (g, none) := by
  cases h with
  | noJson => rfl
  | @noTopic json h =>
    have htopic : ∀ topic, topicIs json topic = .ok false := by
      intro topic
      unfold topicIs
      rw [h]
      rfl
    unfold wsOnCliReadText
    dsimp only
    rw [htopic, htopic]
    rfl
  | @otherTopic json topic h hquery hlayout =>
    unfold wsOnCliReadText
    dsimp only
    rw [topicIs_of_getString h, topicIs_of_getString h, decide_eq_false hquery,
      decide_eq_false hlayout]
    rfl

/-- A call that reads the layout is answered as `sendLayoutCfg` does. -/
theorem serve_of_read (parser : JsonParser) (g : Globals) {c : ServerCall}
    (hmeans : Means c .read) :
    serve parser g c = sendLayoutCfg g >>= fun r => pure (r.1, some r.2) := by
  cases hmeans with
  | newWebsocket => rfl
  | query hquery => exact wsOnCliReadText_of_isQueryCfg parser g hquery

theorem serve_of_skip (parser : JsonParser) (g : Globals) {c : ServerCall}
    (hmeans : Means c .skip) : serve parser g c = .ok (g, none) := by
  cases hmeans with
  | noJson => exact wsOnCliReadText_of_skip parser g .noJson
  | noTopic hnone => exact wsOnCliReadText_of_skip parser g (.noTopic hnone)
  | otherTopic htopic hquery hlayout =>
    exact wsOnCliReadText_of_skip parser g (.otherTopic htopic hquery hlayout)

/-- A layout is one that is accepted, is applied, and is reported. -/
theorem serve_of_write (parser : JsonParser) {g : Globals} (hedit : Editable g.conf.json)
    {c : ServerCall} {L : GridLayout Int32} (hmeans : Means c (.write L)) :
    ∃ cfg : LayoutCfg, cfg.Accepted ∧ L = cfg.layout ∧ ∃ reply,
      serve parser g c = .ok (g.applied parser cfg, reply) ∧ Reports reply (some L) := by
  cases hmeans with
  | @layout json cfg hjson hcfg =>
    exact ⟨cfg, hcfg, rfl, _, wsOnCliReadText_of_accepted parser g hedit hjson hcfg, rfl⟩

/-- While layouts are accepted, a reply changes nothing. -/
theorem eq_of_serve_read {parser : JsonParser} {g g' : Globals} (hedit : Editable g.conf.json)
    {c : ServerCall} (hmeans : Means c .read) {reply : Option CfJson}
    (h : serve parser g c = .ok (g', reply)) : g' = g := by
  rw [serve_of_read parser g hmeans, Checked.bind_eq_ok] at h
  obtain ⟨⟨g₁, reply₁⟩, hsend, hpure⟩ := h
  obtain rfl := sendLayoutCfg_fst hedit.2 hsend
  exact (congrArg Prod.fst (Except.ok.inj hpure)).symm

/-- Each call is answered like a call of the register. -/
theorem refines_register (parser : JsonParser) :
    Refines (serve parser) Register.call HoldsLayout Means Reports := by
  intro g L c k hL hmeans
  cases k with
  | read =>
    obtain ⟨reply, hsend, hreports⟩ := sendLayoutCfg_of_holds hL
    refine ⟨g, some reply, ?_, hL, hreports⟩
    rw [serve_of_read parser g hmeans, hsend]
    rfl
  | skip => exact ⟨g, none, serve_of_skip parser g hmeans, hL, rfl⟩
  | write L' =>
    obtain ⟨cfg, hcfg, rfl, reply, hok, hreports⟩ := serve_of_write parser hL.editable hmeans
    exact ⟨_, reply, hok, holds_applied parser hL.editable hcfg, hreports⟩

/-- After the start-up the program holds the identity layout. -/
theorem holds_of_novaEncoderInit {g g' : Globals} {novaCfg : NovaEncoderCfg} {pipeline : Pipeline}
    (h : novaEncoderInit g novaCfg = .ok (g', pipeline)) (hedit : Editable g.conf.json) :
    HoldsLayout g' identityLayout := by
  have hmax : maxLayerNums = 128 := rfl
  obtain ⟨g₁, hread, rfl, -⟩ := novaEncoderInit_eq_ok_iff.mp h
  have hconf := conf_of_readLayoutConf hread
  have hgrid : IsGrid 8 8 := ⟨by decide, by decide, by decide⟩
  refine ⟨?_, hgrid, rfl, rfl, fun i hi => ?_⟩
  · show Editable g₁.conf.json
    rw [hconf]
    exact hedit
  · have hlt : i < 64 := hi
    have hcell : identityLayout.cell (i / 8) (i % 8) = some (Int32.ofNat (i / 8 * 8 + i % 8)) :=
      if_pos ⟨by omega, by omega⟩
    rw [Nat.div_add_mod'] at hcell
    exact (entry_identityTab (by omega)).trans hcell.symm

/-- **The clients see a register**: from the start-up on, whatever the clients send, every message
of the program is the canonical request for the layout that a register answers with. -/
theorem serveAll_refines (parser : JsonParser) {g g₁ : Globals} {novaCfg : NovaEncoderCfg}
    {pipeline : Pipeline} (hedit : Editable g.conf.json)
    (hinit : novaEncoderInit g novaCfg = .ok (g₁, pipeline)) {calls : List ServerCall}
    {ks : List Register.Call} (h : List.Forall₂ Means calls ks) :
    ∃ g' replies, serveAll parser g₁ calls = .ok (g', replies) ∧
      HoldsLayout g' (Sequential.spec Register.call identityLayout ks).1 ∧
      List.Forall₂ Reports replies (Sequential.spec Register.call identityLayout ks).2 :=
  (refines_register parser).run_eq_ok h (holds_of_novaEncoderInit hinit hedit)

/-- A request for the 1 × 2 grid with input 5 in its second cell. -/
def smallCfg : LayoutCfg := ⟨1, 2, [⟨0, 1, 5⟩]⟩

/-- A client connects, sends the request, a text that is not JSON, and another client connects. -/
def smallCalls : List ServerCall :=
  [.newWebsocket, .cliReadText (some smallCfg.json), .cliReadText none, .newWebsocket]

/-- What it asks of the register. -/
def smallOps : List Register.Call := [.read, .write smallCfg.layout, .skip, .read]

theorem means_smallCalls : List.Forall₂ Means smallCalls smallOps :=
  .cons .newWebsocket (.cons (.layout smallCfg.isLayoutCfg_json accepted_smallCfg)
    (.cons .noJson (.cons .newWebsocket .nil)))

/-- The program started on a file without a layout. -/
theorem novaEncoderInit_withoutLayout : ∃ g₁ pipeline,
    novaEncoderInit unfixedStart ⟨15, 2000, 30⟩ = .ok (g₁, pipeline) ∧
      g₁.conf = unfixedStart.conf :=
  ⟨_, _, novaEncoderInit_eq_ok_iff.mpr ⟨_, rfl, rfl, rfl⟩, rfl⟩

theorem serveAll_refines_smallCalls :
    ∃ g₁ pipeline g' replies, novaEncoderInit unfixedStart ⟨15, 2000, 30⟩ = .ok (g₁, pipeline) ∧
      serveAll (.ofText smallText smallTree) g₁ smallCalls = .ok (g', replies) ∧
      HoldsLayout g' smallCfg.layout ∧
      List.Forall₂ Reports replies
        [some identityLayout, some smallCfg.layout, none, some smallCfg.layout] := by
  obtain ⟨g₁, pipeline, hinit, -⟩ := novaEncoderInit_withoutLayout
  obtain ⟨g', replies, hrun, hL, hreplies⟩ :=
    serveAll_refines (.ofText smallText smallTree) (by decide) hinit means_smallCalls
  exact ⟨g₁, pipeline, g', replies, hinit, hrun, hL, hreplies⟩

/-! ### The file -/

/-- The file holds the layout of the globals. -/
structure Durable (parser : JsonParser) (g : Globals) : Prop where
  stores : Stores g.conf.json g.savedCfg
  files_eq : g.files g.conf.mFileName = some (parser.writeJson g.conf.json)

theorem durable_applied (parser : JsonParser) (g : Globals) (cfg : LayoutCfg) :
    Durable parser (g.applied parser cfg) := by
  refine ⟨stores_saved parser { g with
    dstVerticalBlks := cfg.rows
    dstHorizontalBlks := cfg.cols
    layerLayoutTab := cfg.tab }, ?_⟩
  exact Function.update_self ..

/-- A new start on the file loads the layout. -/
theorem readLayoutConf_of_durable {parser : JsonParser} {g : Globals} {L : GridLayout Int32}
    (h : Durable parser g) (hL : HoldsLayout g L)
    (hparser : parser.readJson (parser.writeJson g.conf.json) = some g.conf.json)
    (other : Globals) :
    ∃ loaded, readLayoutConf { other with
        conf := .new parser g.files g.conf.mFileName, files := g.files } = .ok loaded ∧
      HoldsLayout loaded L := by
  have hcols := hL.isGrid.cols_pos
  have hconf : Configer.new parser g.files g.conf.mFileName = g.conf := by
    unfold Configer.new
    rw [h.files_eq, Option.bind_some, hparser, Option.getD_some]
    rfl
  have hmode : g.conf.json.getString "mvr_mode" "unfixed" ≠ "fixed" := by
    rw [hL.editable.2]
    decide
  -- no record is skipped, and the records make the table
  have hloaded : g.savedCfg.loaded = g.savedCfg := by
    have hfilter : g.savedCfg.pos.filter PosRecord.IsSet = g.savedCfg.pos :=
      List.filter_eq_self.mpr fun r hr =>
        decide_eq_true (isSet_of_mem_records le_rfl hcols hr).1
    unfold LayoutCfg.loaded
    rw [hfilter]
  have hstore : g.savedCfg.loaded.store = .ok g.savedCfg.tab := by
    rw [hloaded]
    exact LayoutCfg.store_eq_ok fun r hr => (isSet_of_mem_records le_rfl hcols hr).2
  have htab : g.savedCfg.tab = g.layerLayoutTab := by
    ext i hi
    rw [LayoutCfg.getElem_tab]
    exact lastWrite_records hcols g.layerLayoutTab hi
  rw [hconf]
  refine ⟨{ other with
    conf := g.conf, files := g.files
    viHorizontalBlks := 8, viVerticalBlks := 8
    dstVerticalBlks := g.dstVerticalBlks, dstHorizontalBlks := g.dstHorizontalBlks
    layerLayoutTab := g.layerLayoutTab }, ?_, hL.editable, hL.isGrid, hL.rows_eq, hL.cols_eq,
    hL.entry_eq⟩
  refine (readLayoutConf_of_stores hmode h.stores (CInt.ne_neg_one_of_pos hL.isGrid.rows_pos)
    (CInt.ne_neg_one_of_pos hcols)).trans ?_
  rw [hstore, htab]
  rfl

/-- A call leaves the file as it is, or brings it up to date. -/
theorem durable_of_serve {parser : JsonParser} {g g' : Globals} {L : GridLayout Int32}
    {c : ServerCall} {k : Register.Call} {reply : Option CfJson} (hL : HoldsLayout g L)
    (hmeans : Means c k) (h : serve parser g c = .ok (g', reply)) :
    Durable parser g' ∨ g' = g ∧ ∀ L', k ≠ .write L' := by
  cases k with
  | read => exact Or.inr ⟨eq_of_serve_read hL.editable hmeans h, fun L' heq => by cases heq⟩
  | skip =>
    rw [serve_of_skip parser g hmeans] at h
    obtain ⟨rfl, -⟩ := Prod.mk.inj (Except.ok.inj h)
    exact Or.inr ⟨rfl, fun L' heq => by cases heq⟩
  | write L' =>
    obtain ⟨cfg, -, -, reply', hok, -⟩ := serve_of_write parser hL.editable hmeans
    obtain ⟨rfl, -⟩ := Prod.mk.inj (Except.ok.inj (hok.symm.trans h))
    exact Or.inl (durable_applied parser g cfg)

/-- Once a layout was written the file is up to date. -/
theorem durable_of_serveAll {parser : JsonParser} {g g' : Globals} {L : GridLayout Int32}
    {calls : List ServerCall} {ks : List Register.Call} {replies : List (Option CfJson)}
    (hL : HoldsLayout g L) (hmeans : List.Forall₂ Means calls ks)
    (h : serveAll parser g calls = .ok (g', replies))
    (hwrite : Durable parser g ∨ ∃ L', .write L' ∈ ks) : Durable parser g' := by
  induction hmeans generalizing g L replies with
  | nil =>
    obtain ⟨rfl, -⟩ := Prod.mk.inj (Except.ok.inj h)
    refine hwrite.resolve_right ?_
    rintro ⟨L', hmem⟩
    cases hmem
  | @cons c k calls ks hck hrest ih =>
    obtain ⟨g₁, reply, replies', hserve, hrun, rfl⟩ := Sequential.run_cons_eq_ok.mp h
    obtain ⟨g₂, reply₂, hserve₂, hL₂, -⟩ := refines_register parser g L c k hL hck
    obtain ⟨rfl, rfl⟩ := Prod.mk.inj (Except.ok.inj (hserve.symm.trans hserve₂))
    refine ih hL₂ hrun ?_
    rcases durable_of_serve hL hck hserve with hdurable | ⟨rfl, hnot⟩
    · exact Or.inl hdurable
    · refine hwrite.imp_right ?_
      rintro ⟨L', hmem⟩
      exact ⟨L', (List.mem_cons.mp hmem).resolve_left (hnot L').symm⟩

/-- **The register is on disk**: after any calls one of which wrote a layout, a new start on the
file that the program left loads the layout of the register. -/
theorem readLayoutConf_of_serveAll (parser : JsonParser) {g g₁ : Globals} {novaCfg : NovaEncoderCfg}
    {pipeline : Pipeline} (hedit : Editable g.conf.json)
    (hinit : novaEncoderInit g novaCfg = .ok (g₁, pipeline)) {calls : List ServerCall}
    {ks : List Register.Call} (h : List.Forall₂ Means calls ks) (hwrite : ∃ L, .write L ∈ ks) :
    ∃ g' replies, serveAll parser g₁ calls = .ok (g', replies) ∧
      (parser.readJson (parser.writeJson g'.conf.json) = some g'.conf.json → ∀ other : Globals,
        ∃ loaded, readLayoutConf { other with
            conf := .new parser g'.files g'.conf.mFileName, files := g'.files } = .ok loaded ∧
          HoldsLayout loaded (Sequential.spec Register.call identityLayout ks).1) := by
  have hL := holds_of_novaEncoderInit hinit hedit
  obtain ⟨g', replies, hrun, hL', -⟩ := (refines_register parser).run_eq_ok h hL
  have hdurable : Durable parser g' := durable_of_serveAll hL h hrun (Or.inr hwrite)
  refine ⟨g', replies, hrun, fun hparser other => ?_⟩
  exact readLayoutConf_of_durable hdurable hL' hparser other

/-- The layout that was sent is loaded from the file. -/
theorem readLayoutConf_of_serveAll_small : ∃ g₁ pipeline g' replies,
    novaEncoderInit unfixedStart ⟨15, 2000, 30⟩ = .ok (g₁, pipeline) ∧
    serveAll (.ofText smallText smallTree) g₁ [.cliReadText (some smallCfg.json)] =
      .ok (g', replies) ∧
    ∃ loaded, readLayoutConf { unfixedStart with
        conf := .new (.ofText smallText smallTree) g'.files g'.conf.mFileName
        files := g'.files } = .ok loaded ∧ HoldsLayout loaded smallCfg.layout := by
  obtain ⟨g₁, pipeline, hinit, hconf⟩ := novaEncoderInit_withoutLayout
  have hmeans : List.Forall₂ Means [.cliReadText (some smallCfg.json)]
      [Register.Call.write smallCfg.layout] :=
    .cons (.layout smallCfg.isLayoutCfg_json accepted_smallCfg) .nil
  obtain ⟨g', replies, hrun, hload⟩ := readLayoutConf_of_serveAll (.ofText smallText smallTree)
    (by decide) hinit hmeans ⟨_, List.mem_singleton.mpr rfl⟩
  -- the tree that was saved is the one the parser knows
  have hrecords : records maxLayerNums smallCfg.cols smallCfg.tab = [⟨0, 1, 5⟩] := by
    decide +kernel
  have hedit : Editable g₁.conf.json := by
    rw [hconf]
    decide
  have happlied : g' = g₁.applied (.ofText smallText smallTree) smallCfg := by
    obtain ⟨s₁, o, os, hserve, hnil, -⟩ := Sequential.run_cons_eq_ok.mp hrun
    have hok := wsOnCliReadText_of_accepted (.ofText smallText smallTree) g₁ hedit
      smallCfg.isLayoutCfg_json accepted_smallCfg
    obtain ⟨rfl, -⟩ := Prod.mk.inj (Except.ok.inj (hserve.symm.trans hok))
    exact (congrArg Prod.fst (Except.ok.inj hnil)).symm
  have htree : g'.conf.json = smallTree := by
    rw [happlied]
    show g₁.conf.json.putChild "layout" (layoutTree (baseLayout g₁.conf.json) smallCfg.rows
      smallCfg.cols (sourcesTree smallCfg.cols smallCfg.tab)) = smallTree
    rw [sourcesTree, hrecords, hconf]
    rfl
  have hparser : (JsonParser.ofText smallText smallTree).readJson
      ((JsonParser.ofText smallText smallTree).writeJson g'.conf.json) = some g'.conf.json := by
    rw [JsonParser.readJson_ofText, htree]
  exact ⟨g₁, pipeline, g', replies, hinit, hrun, hload hparser unfixedStart⟩

/-! ### A configuration that cannot be changed -/

/-- The parts of the globals that the clients cannot reach. -/
structure SameSettings (g g' : Globals) : Prop where
  conf_eq : g'.conf = g.conf
  files_eq : g'.files = g.files
  dstVerticalBlks_eq : g'.dstVerticalBlks = g.dstVerticalBlks
  dstHorizontalBlks_eq : g'.dstHorizontalBlks = g.dstHorizontalBlks
  viVerticalBlks_eq : g'.viVerticalBlks = g.viVerticalBlks
  viHorizontalBlks_eq : g'.viHorizontalBlks = g.viHorizontalBlks

/-- A report changes at most the table, and only where it does not report the table. -/
theorem sendLayoutCfg_frozen {g g' : Globals} {reply : CfJson}
    (h : sendLayoutCfg g = .ok (g', reply)) : SameSettings g g' ∧
      (g.conf.json.getString "mvr_mode" "unfixed" = "unfixed" → g' = g) := by
  by_cases hmode : g.conf.json.getString "mvr_mode" "unfixed" = "unfixed"
  · obtain rfl := sendLayoutCfg_fst hmode h
    exact ⟨⟨rfl, rfl, rfl, rfl, rfl, rfl⟩, fun _ => rfl⟩
  · rw [sendLayoutCfg_of_not_unfixed hmode] at h
    obtain ⟨rfl, -⟩ := Prod.mk.inj (Except.ok.inj h)
    exact ⟨⟨rfl, rfl, rfl, rfl, rfl, rfl⟩, fun hmode' => absurd hmode' hmode⟩

/-- Whatever a message holds that does not change the layout, it is answered with a report or not at
all. -/
theorem wsOnCliReadText_quiet {parser : JsonParser} {g g' : Globals} {json : Option CfJson}
    {reply : Option CfJson}
    (hquiet : Editable g.conf.json → ∀ j, json = some j → j.getString "topic" ≠ .ok "layout_cfg")
    (h : wsOnCliReadText parser g json = .ok (g', reply)) :
    g' = g ∧ reply = none ∨ ∃ r, reply = some r ∧ sendLayoutCfg g = .ok (g', r) := by
  have hsend : ∀ {g₁ : Globals}, (sendLayoutCfg g₁ >>= fun r => pure (r.1, some r.2) :
      Checked (Globals × Option CfJson)) = .ok (g', reply) →
      ∃ r, reply = some r ∧ sendLayoutCfg g₁ = .ok (g', r) := by
    intro g₁ hok
    obtain ⟨⟨g₂, r⟩, hreport, hpure⟩ := Checked.bind_eq_ok.mp hok
    obtain ⟨rfl, rfl⟩ := Prod.mk.inj (Except.ok.inj hpure)
    exact ⟨r, rfl, hreport⟩
  unfold wsOnCliReadText at h
  cases json with
  | none =>
    obtain ⟨rfl, rfl⟩ := Prod.mk.inj (Except.ok.inj h)
    exact Or.inl ⟨rfl, rfl⟩
  | some json =>
    dsimp only at h
    obtain ⟨isQuery, -, h⟩ := Checked.bind_eq_ok.mp h
    cases isQuery with
    | true => exact Or.inr (hsend h)
    | false =>
      obtain ⟨isLayout, htopic, h⟩ := Checked.bind_eq_ok.mp h
      cases isLayout with
      | true =>
        -- the request is dropped
        have hmode : ¬ (g.conf.json.count "mvr_mode" > 0 ∧
            g.conf.json.getString "mvr_mode" "unfixed" = "unfixed") := fun hedit =>
          hquiet hedit json rfl (getString_of_topicIs htopic)
        simp only [if_true, if_neg hmode] at h
        exact Or.inr (hsend h)
      | false =>
        obtain ⟨rfl, rfl⟩ := Prod.mk.inj (Except.ok.inj h)
        exact Or.inl ⟨rfl, rfl⟩

/-- Reports from the same settings are the same, as long as the table is or is not reported. -/
theorem sendLayoutCfg_congr {g s s' : Globals} {reply : CfJson} (hs : SameSettings g s)
    (htab : g.conf.json.getString "mvr_mode" "unfixed" = "unfixed" → s = g)
    (h : sendLayoutCfg s = .ok (s', reply)) : ∃ g', sendLayoutCfg g = .ok (g', reply) := by
  by_cases hmode : g.conf.json.getString "mvr_mode" "unfixed" = "unfixed"
  · rw [htab hmode] at h
    exact ⟨s', h⟩
  · rw [sendLayoutCfg_of_not_unfixed (by rw [hs.conf_eq]; exact hmode), hs.conf_eq] at h
    obtain ⟨-, rfl⟩ := Prod.mk.inj (Except.ok.inj h)
    exact ⟨_, sendLayoutCfg_of_not_unfixed hmode⟩

/-- **What is fixed stays fixed**: unless `mvr_mode` is present and `"unfixed"`, no sequence of
connections and texts, whatever the texts hold, changes the configuration, its file or the grid, and
all messages to the clients are the same. -/
theorem serveAll_frozen (parser : JsonParser) {g g' : Globals} (hedit : ¬ Editable g.conf.json)
    {calls : List ServerCall} {replies : List (Option CfJson)}
    (h : serveAll parser g calls = .ok (g', replies)) :
    SameSettings g g' ∧
      ∀ reply, some reply ∈ replies → ∃ g₁, sendLayoutCfg g = .ok (g₁, reply) := by
  have hpreserves := run_preserves
    (fun s => SameSettings g s ∧
      (g.conf.json.getString "mvr_mode" "unfixed" = "unfixed" → s = g))
    (fun o => ∀ reply, o = some reply → ∃ g₁, sendLayoutCfg g = .ok (g₁, reply)) ?_
    ⟨⟨rfl, rfl, rfl, rfl, rfl, rfl⟩, fun _ => rfl⟩ h
  · obtain ⟨⟨hsame, -⟩, hreplies⟩ := hpreserves
    exact ⟨hsame, fun reply hmem => hreplies _ hmem reply rfl⟩
  · rintro s c s' o ⟨hs, htab⟩ hserve
    -- a call that reports
    have hreport : ∀ r, sendLayoutCfg s = .ok (s', r) → (SameSettings g s' ∧
        (g.conf.json.getString "mvr_mode" "unfixed" = "unfixed" → s' = g)) ∧
        ∃ g₁, sendLayoutCfg g = .ok (g₁, r) := by
      intro r hsend
      obtain ⟨hs', htab'⟩ := sendLayoutCfg_frozen hsend
      refine ⟨⟨⟨hs'.conf_eq.trans hs.conf_eq, hs'.files_eq.trans hs.files_eq,
        hs'.dstVerticalBlks_eq.trans hs.dstVerticalBlks_eq,
        hs'.dstHorizontalBlks_eq.trans hs.dstHorizontalBlks_eq,
        hs'.viVerticalBlks_eq.trans hs.viVerticalBlks_eq,
        hs'.viHorizontalBlks_eq.trans hs.viHorizontalBlks_eq⟩, fun hmode => ?_⟩,
        sendLayoutCfg_congr hs htab hsend⟩
      rw [← hs.conf_eq] at hmode
      exact (htab' hmode).trans (htab (by rw [← hs.conf_eq]; exact hmode))
    cases c with
    | newWebsocket =>
      obtain ⟨⟨s₁, r⟩, hsend, hpure⟩ := Checked.bind_eq_ok.mp hserve
      obtain ⟨rfl, rfl⟩ := Prod.mk.inj (Except.ok.inj hpure)
      obtain ⟨hs', hreply⟩ := hreport r hsend
      exact ⟨hs', fun reply heq => Option.some.inj heq ▸ hreply⟩
    | cliReadText json =>
      have hedit' : ¬ Editable s.conf.json := by
        rw [hs.conf_eq]
        exact hedit
      have hquiet := wsOnCliReadText_quiet (fun hedit => absurd hedit hedit') hserve
      rcases hquiet with ⟨rfl, rfl⟩ | ⟨r, rfl, hsend⟩
      · exact ⟨⟨hs, htab⟩, fun reply heq => by cases heq⟩
      · obtain ⟨hs', hreply⟩ := hreport r hsend
        exact ⟨hs', fun reply heq => Option.some.inj heq ▸ hreply⟩

/-- In the mode `"fixed"` the request is answered, and ignored. -/
theorem serveAll_frozen_fixed : ∃ g' replies,
    serveAll (.ofText smallText smallTree) (.initial (confWithMode "fixed") fun _ => none)
      [.cliReadText (some smallCfg.json)] = .ok (g', replies) ∧
    SameSettings (.initial (confWithMode "fixed") fun _ => none) g' ∧
    ∀ reply, some reply ∈ replies → ∃ g₁, sendLayoutCfg
      (.initial (confWithMode "fixed") fun _ => none) = .ok (g₁, reply) := by
  have hsend := sendLayoutCfg_of_not_unfixed
    (g := .initial (confWithMode "fixed") fun _ => none) (by decide)
  have hedit : ¬ Editable (Globals.initial (confWithMode "fixed") fun _ => none).conf.json := by
    decide
  have hok : ∃ g' reply, wsOnCliReadText (.ofText smallText smallTree)
      (.initial (confWithMode "fixed") fun _ => none) (some smallCfg.json) =
      .ok (g', some reply) := by
    rw [wsOnCliReadText_of_isLayoutCfg _ _ smallCfg.isLayoutCfg_json, if_neg hedit, pure_bind]
    dsimp only
    rw [hsend]
    exact ⟨_, _, rfl⟩
  obtain ⟨g', reply, hserve⟩ := hok
  have hrun : serveAll (.ofText smallText smallTree)
      (.initial (confWithMode "fixed") fun _ => none) [.cliReadText (some smallCfg.json)] =
      .ok (g', [some reply]) :=
    Sequential.run_cons_eq_ok.mpr ⟨_, _, [], hserve, rfl, rfl⟩
  exact ⟨_, _, hrun, serveAll_frozen _ hedit hrun⟩

end Mvr.Player
