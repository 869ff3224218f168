import Mvr.Player.Equiv.StartUp

/-!
# The layout of the frame composer

The `vif` element gets its layout at start-up and nobody tells it of a later one: a message changes
the globals only, which is why `wsRun` has no element to change.  So the frame composer decodes the
identity layout of an 8 × 8 grid for every frame (`webPara_vifHead`), and after a run of accepted
requests it agrees with the player exactly when the last of them asked for this layout
(`webPara_agrees_iff`).
-/

namespace Mvr.Player

/-! ### The attributes of the `vif` element -/

theorem map_fst_tabAttrs (l : List (Fin maxLayerNums)) :
    (tabAttrs l).map Prod.fst = l.map fun i : Fin maxLayerNums => Vif.tabKey i := by
  unfold tabAttrs
  rw [List.map_map]
  rfl

theorem nodup_tabAttrs : ((tabAttrs (List.finRange maxLayerNums)).map Prod.fst).Nodup := by
  rw [map_fst_tabAttrs]
  apply (List.nodup_finRange _).map
  intro i j h
  exact Fin.ext (Vif.tabKey_inj i.isLt j.isLt h)

/-- The attribute of a layer is the text of its index. -/
theorem mAttrMap_vifHead_tabKey {i : ℕ} (hi : i < maxLayerNums) :
    vifHead.mAttrMap (Vif.tabKey i) = some (decimalText (Int32.ofNat i)) := by
  -- no other layer writes the key
  have hlast : lastWrite (tabAttrs (List.finRange maxLayerNums)) (Vif.tabKey i) =
      some (decimalText (Int32.ofNat i)) := by
    rw [lastWrite_eq_some_iff_of_nodup nodup_tabAttrs]
    exact List.mem_map.mpr ⟨⟨i, hi⟩, List.mem_finRange _, rfl⟩
  rw [vifHead, Element.mAttrMap_foldl_setAttr, hlast]
  rfl

/-- The other attributes are those set before the loop. -/
theorem mAttrMap_vifHead_of_ne {name : String} (h : name.toList.head? ≠ some 't') :
    vifHead.mAttrMap name = (vifAttrs 8 8).mAttrMap name := by
  have hlast : lastWrite (tabAttrs (List.finRange maxLayerNums)) name = none := by
    rw [lastWrite_eq_none_iff]
    intro w hw heq
    -- every key of the loop starts with a `t`
    obtain ⟨i, -, rfl⟩ := List.mem_map.mp hw
    exact Vif.ne_tabKey h i heq.symm
  rw [vifHead, Element.mAttrMap_foldl_setAttr, hlast]
  rfl

/-- Every frame is composed with the identity layout of an 8 × 8 grid. -/
theorem webPara_vifHead :
    ∃ web, Vif.webPara vifHead = .ok web ∧ web.dstHorizontalBlks = 8 ∧ web.dstVerticalBlks = 8 ∧
      ∀ i < 64, web.layerLayoutTab[i]? = some (Int32.ofNat i) := by
  have hmax : maxLayerNums = 128 := rfl
  have hnum : ∀ name : String, name.toList.head? ≠ some 't' →
      (vifAttrs 8 8).mAttrMap name = some (decimalText 8) →
      CText.atoi (vifHead.getAttrWord name "0") = 8 := by
    intro name hname hattr
    unfold Element.getAttrWord
    rw [mAttrMap_vifHead_of_ne hname, hattr]
    dsimp only
    rw [extractWord_decimalText (by decide), atoi_decimalText (by decide)]
  have hlay : (CText.atoi (vifHead.getAttrWord "layNum" "0")).toInt = (64 : ℕ) := by
    unfold Element.getAttrWord
    rw [mAttrMap_vifHead_of_ne (by decide), show (vifAttrs 8 8).mAttrMap "layNum" = some "64" by
      simp [vifAttrs, Streamable.insert]]
    decide
  have htab : ∀ i < 64, CText.atoi (vifHead.getAttrWord (Vif.tabKey i) "0") = Int32.ofNat i := by
    intro i hi
    have hint := Vif.toInt_ofNat_layer (i := i) (show i < 128 by omega)
    unfold Element.getAttrWord
    rw [mAttrMap_vifHead_tabKey (by omega)]
    dsimp only
    rw [extractWord_decimalText (by omega), atoi_decimalText (by omega)]
  obtain ⟨web, hweb, hcols, hrows, hentry⟩ := Vif.webPara_eq_ok (e := vifHead) (by decide) hlay
  refine ⟨web, hweb, ?_, ?_, fun i hi => ?_⟩
  · rw [hcols]
    exact hnum _ (by decide) (by simp [vifAttrs, Streamable.insert, toString])
  · rw [hrows]
    exact hnum _ (by decide) (by simp [vifAttrs, Streamable.insert, toString])
  · rw [hentry i hi, htab i hi]

/-! ### Runs of accepted requests -/

/-- A run of accepted requests applies them one after the other. -/
theorem wsRun_of_accepted (parser : JsonParser) {g : Globals} (hedit : Editable g.conf.json)
    {messages : List CfJson} {cfgs : List LayoutCfg}
    (h : List.Forall₂ IsLayoutCfg messages cfgs) (hacc : ∀ cfg ∈ cfgs, cfg.Accepted) :
    wsRun parser g messages = .ok (cfgs.foldl (fun g cfg => g.applied parser cfg) g) := by
  induction h generalizing g with
  | nil => rfl
  | @cons json cfg messages cfgs hjson _ ih =>
    obtain ⟨hcfg, hrest⟩ := List.forall_mem_cons.mp hacc
    have hedit' : Editable (g.applied parser cfg).conf.json :=
      (editable_applied parser g cfg).mpr hedit
    rw [wsRun, List.foldlM_cons, wsStep, wsOnCliReadText_of_accepted parser g hedit hjson hcfg]
    exact ih hedit' hrest

/-- What the frame composer decoded is the layout of the player. -/
structure Agrees (g : Globals) (web : Vif.WebPara) : Prop where
  dstHorizontalBlks_eq : web.dstHorizontalBlks = g.dstHorizontalBlks
  dstVerticalBlks_eq : web.dstVerticalBlks = g.dstVerticalBlks
  layerLayoutTab_eq : ∀ i < (g.dstVerticalBlks * g.dstHorizontalBlks).toInt.toNat,
    web.layerLayoutTab[i]? = g.layerLayoutTab[i]?

section Agrees

variable {web : Vif.WebPara} (hcols : web.dstHorizontalBlks = 8) (hrows : web.dstVerticalBlks = 8)
  (htab : ∀ i < 64, web.layerLayoutTab[i]? = some (Int32.ofNat i))

include hcols hrows htab

/-- The composer agrees with the layout it was handed. -/
theorem agrees_reset (g : Globals) : Agrees g.reset web := by
  have hmax : maxLayerNums = 128 := rfl
  refine ⟨hcols, hrows, fun i hi => ?_⟩
  have hlt : i < 64 := hi
  rw [htab i hlt, show g.reset.layerLayoutTab = identityTab from rfl,
    Vector.getElem?_eq_getElem (by omega), getElem_identityTab (by omega)]

/-- The composer agrees with a request that was applied exactly when it asked for the identity
layout. -/
theorem agrees_applied_iff (parser : JsonParser) (g : Globals) {cfg : LayoutCfg}
    (h : cfg.Accepted) : Agrees (g.applied parser cfg) web ↔ cfg.IsIdentity := by
  have hmax : maxLayerNums = 128 := rfl
  have h8 : (8 : Int32).toInt.toNat = 8 := rfl
  have hentry : cfg.rows = 8 → cfg.cols = 8 → ∀ i < 64,
      (web.layerLayoutTab[i]? = cfg.tab[i]? ↔
        (cfg.lastOf (Int32.ofNat (i / 8)) (Int32.ofNat (i % 8))).map PosRecord.inputId =
          some (Int32.ofNat i)) := by
    intro hr hc i hi
    have hshows := h.shows_tab i (by omega)
    rw [LayoutCfg.layout_rows, LayoutCfg.layout_cols, hr, hc, h8, if_pos (by omega)] at hshows
    rw [htab i hi, ← h.cell_eq_iff hr hc hi, ← hshows, entry_of_lt _ (by omega),
      sourceOf_eq_some_iff (ofNat_ne_neg_one ⟨i, by omega⟩), Vector.getElem?_eq_getElem (by omega),
      Option.some.injEq, eq_comm]
  have hcells : cfg.rows = 8 → cfg.cols = 8 → (cfg.rows * cfg.cols).toInt.toNat = 64 := by
    intro hr hc
    rw [hr, hc]
    rfl
  constructor
  · rintro ⟨hc, hr, hi⟩
    have hr8 : cfg.rows = 8 := hr.symm.trans hrows
    have hc8 : cfg.cols = 8 := hc.symm.trans hcols
    refine ⟨hr8, hc8, fun i hlt => ?_⟩
    exact (hentry hr8 hc8 i hlt).mp (hi i (hlt.trans_eq (hcells hr8 hc8).symm))
  · rintro ⟨hr8, hc8, hi⟩
    refine ⟨hcols.trans hc8.symm, hrows.trans hr8.symm, fun i hlt => ?_⟩
    have h64 : i < 64 := hlt.trans_eq (hcells hr8 hc8)
    exact (hentry hr8 hc8 i h64).mpr (hi i h64)

end Agrees

/-- **The composer's copy of the layout**: after a run of accepted requests from start-up it is the
player's layout exactly when there was none, or the last one asked for the identity layout. -/
theorem webPara_agrees_iff (parser : JsonParser) (g : Globals) (novaCfg : NovaEncoderCfg)
    (start : Globals) (pipeline : Pipeline) (hedit : Editable g.conf.json)
    (hinit : novaEncoderInit g novaCfg = .ok (start, pipeline)) (messages : List CfJson)
    (cfgs : List LayoutCfg) (h : List.Forall₂ IsLayoutCfg messages cfgs)
    (hacc : ∀ cfg ∈ cfgs, cfg.Accepted) :
    ∃ final web, wsRun parser start messages = .ok final ∧
      Vif.webPara pipeline.mElemHead = .ok web ∧
      (Agrees final web ↔ ∀ cfg ∈ cfgs.getLast?, cfg.IsIdentity) := by
  obtain ⟨g₁, hread, rfl, rfl⟩ := novaEncoderInit_eq_ok_iff.mp hinit
  have hstart : Editable g₁.reset.conf.json := by
    rw [show g₁.reset.conf = g₁.conf from rfl, conf_of_readLayoutConf hread]
    exact hedit
  -- no message reaches the element, so the frames keep its first layout
  obtain ⟨web, hweb, hcols, hrows, htab⟩ := webPara_vifHead
  refine ⟨_, web, wsRun_of_accepted parser hstart h hacc, hweb, ?_⟩
  cases cfgs using List.reverseRecOn with
  | nil => exact iff_of_true (agrees_reset hcols hrows htab g₁) (by simp)
  | append_singleton cfgs cfg =>
    have hcfg : cfg.Accepted := hacc cfg (by simp)
    rw [List.foldl_append, List.foldl_cons, List.foldl_nil,
      agrees_applied_iff hcols hrows htab parser _ hcfg]
    simp

/-! ### A grid of one row -/

theorem novaEncoderInit_unfixedStart :
    ∃ g₁ pipeline, novaEncoderInit unfixedStart ⟨15, 2000, 30⟩ =
      .ok (Globals.reset g₁, pipeline) ∧ pipeline.mElemHead = vifHead ∧ Editable g₁.conf.json :=
  ⟨_, _, novaEncoderInit_eq_ok_iff.mpr ⟨_, rfl, rfl, rfl⟩, rfl, by decide⟩

theorem webPara_agrees_one_row :
    ∃ start pipeline final web,
      novaEncoderInit unfixedStart ⟨15, 2000, 30⟩ = .ok (start, pipeline) ∧
      wsRun (.ofText smallText smallTree) start [LayoutCfg.json ⟨1, 2, [⟨0, 1, 5⟩]⟩] = .ok final ∧
      Vif.webPara pipeline.mElemHead = .ok web ∧
      (Agrees final web ↔ ∀ cfg ∈ [LayoutCfg.mk 1 2 [⟨0, 1, 5⟩]].getLast?, cfg.IsIdentity) := by
  obtain ⟨g₁, pipeline, hinit, -, -⟩ := novaEncoderInit_unfixedStart
  obtain ⟨final, web, hfinal, hweb, hagrees⟩ := webPara_agrees_iff (.ofText smallText smallTree)
    unfixedStart ⟨15, 2000, 30⟩ g₁.reset pipeline (by decide) hinit
    [LayoutCfg.json ⟨1, 2, [⟨0, 1, 5⟩]⟩] [⟨1, 2, [⟨0, 1, 5⟩]⟩]
    (.cons (LayoutCfg.isLayoutCfg_json _) .nil) (List.forall_mem_singleton.mpr accepted_smallCfg)
  exact ⟨_, pipeline, final, web, hinit, hfinal, hweb, hagrees⟩

/-- After a request for one row the frames are still composed of eight. -/
theorem webPara_stale_one_row :
    Editable unfixedStart.conf.json ∧
      IsLayoutCfg (LayoutCfg.json ⟨1, 2, [⟨0, 1, 5⟩]⟩) ⟨1, 2, [⟨0, 1, 5⟩]⟩ ∧
      LayoutCfg.Accepted ⟨1, 2, [⟨0, 1, 5⟩]⟩ ∧
      ∃ start pipeline final web,
        novaEncoderInit unfixedStart ⟨15, 2000, 30⟩ = .ok (start, pipeline) ∧
        wsRun (.ofText smallText smallTree) start [LayoutCfg.json ⟨1, 2, [⟨0, 1, 5⟩]⟩] =
          .ok final ∧
        Vif.webPara pipeline.mElemHead = .ok web ∧
        final.dstVerticalBlks = 1 ∧ web.dstVerticalBlks = 8 ∧ ¬ Agrees final web := by
  refine ⟨by decide, LayoutCfg.isLayoutCfg_json _, accepted_smallCfg, ?_⟩
  obtain ⟨g₁, pipeline, hinit, hhead, hedit⟩ := novaEncoderInit_unfixedStart
  obtain ⟨web, hweb, -, hrows, -⟩ := webPara_vifHead
  rw [← hhead] at hweb
  have hedit' : Editable g₁.reset.conf.json := hedit
  have hrun := wsRun_of_accepted (.ofText smallText smallTree) hedit'
    (.cons (LayoutCfg.isLayoutCfg_json ⟨1, 2, [⟨0, 1, 5⟩]⟩) .nil)
    (List.forall_mem_singleton.mpr accepted_smallCfg)
  refine ⟨_, pipeline, _, web, hinit, hrun, hweb, rfl, hrows, fun h => ?_⟩
  exact absurd (hrows.symm.trans h.dstVerticalBlks_eq) (show (8 : Int32) ≠ 1 by decide)

end Mvr.Player
