import Mvr.Player.Equiv.PassThrough
import Mvr.Player.Start
import Mvr.Ssc339g.Apart

/-!
# The two channels of a player

The channels keep to numbers of their own, so that either is what it is by itself, although the
second is linked to the elements of the first.  Channel 1 feeds its encoder pictures of its size.
The encoder of channel 0 is reached if the SDK puts it on device 0, but its pictures have not the
size it was created for: the DIVP is set to the width of its scale, FHD, and to the height of the
VPE, 4K.
-/

namespace Mvr.Player

open Ssc339g (Sdk Board Call ChnPort Channel attrNum vifCalls vpeCalls divpCalls vencCalls vencPort)

/-- The calls that channel 0 depends on. -/
def calls₀ (sdk : Sdk) : List Call :=
  vifCalls 0 0 0 0 ++ .sysBindChnPort2 ⟨.vif, 0, 0, 0⟩ ⟨.vpe, 0, 0, 0⟩ ::
    vpeCalls 0 0 0 (3840, 2160) ++
  (vencCalls 0 .h264e (1920, 1080) ++ [.sysBindChnPort2 ⟨.divp, 0, 0, 0⟩ (vencPort sdk 0)]) ++
  (.sysSetChnOutputPortDepth ⟨.vpe, 0, 0, 0⟩ 2 3 :: .sysGetFd ⟨.vpe, 0, 0, 0⟩ ::
    divpCalls 0 (1920, 2160))

/-- The calls that channel 1 depends on. -/
def calls₁ (sdk : Sdk) : List Call :=
  vifCalls 1 2 8 0 ++ .sysBindChnPort2 ⟨.vif, 2, 8, 0⟩ ⟨.vpe, 0, 2, 0⟩ ::
    vpeCalls 1 2 0 (1280, 720) ++
  (vencCalls 2 .h264e (1280, 720) ++ [.sysBindChnPort2 ⟨.vpe, 0, 2, 0⟩ (vencPort sdk 2)])

/-- The calls for channel 0 succeed, and its encoder is on device 0. -/
structure Regroups (sdk : Sdk) : Prop where
  ret_eq : ∀ c ∈ calls₀ sdk, sdk.ret c = 0
  dev_eq : sdk.chnDevid 0 = 0

/-- The calls for channel 1 succeed. -/
def PassesOn (sdk : Sdk) : Prop := ∀ c ∈ calls₁ sdk, sdk.ret c = 0

/-- Channel 0 after its set-up. -/
def channel₀ (novaCfg : NovaEncoderCfg) : Channel where
  vif := vifHead
  vpe := vpeAttrs
  venc := vencAttrs novaCfg
  vif_class := by
    have hclass : ∀ (ws : List (String × String)) (e : Element),
        (ws.foldl (fun e w => e.setAttr w.1 w.2) e).mClassName = e.mClassName := by
      intro ws
      induction ws with
      | nil => exact fun _ => rfl
      | cons w ws ih => exact fun e => ih (e.setAttr w.1 w.2)
    exact hclass _ _
  vpe_class := rfl
  venc_class := rfl

/-- Channel 1 after its set-up. -/
def channel₁ (novaCfg : NovaEncoderCfg) : Channel where
  vif := vifAttrs1
  vpe := vpeAttrs1
  venc := vencAttrs1 novaCfg
  vif_class := rfl
  vpe_class := rfl
  venc_class := rfl

variable {sdk : Sdk} {novaCfg novaCfg' : NovaEncoderCfg} {pad chn : UInt32}
  {created fed : Ssc339g.Size}

/-! ### The attributes -/

/-- The attributes of channel 0's `vif` element are read as they were set. -/
theorem getAttrWord_vifHead {name : String} (h : name.toList.head? ≠ some 't') (d : String) :
    vifHead.getAttrWord name d = (vifAttrs 8 8).getAttrWord name d := by
  unfold Element.getAttrWord
  rw [mAttrMap_vifHead_of_ne h]

theorem attrNum_vifHead {name : String} (h : name.toList.head? ≠ some 't') :
    attrNum vifHead name = attrNum (vifAttrs 8 8) name := by
  unfold attrNum
  rw [getAttrWord_vifHead h]

theorem vifDev_vifHead : Ssc339g.vifDev vifHead = 0 := by
  unfold Ssc339g.vifDev
  rw [attrNum_vifHead (by decide)]
  decide

theorem vifChn_vifHead : Ssc339g.vifChn vifHead = 0 := by
  unfold Ssc339g.vifChn
  rw [vifDev_vifHead]
  rfl

theorem eSnrPadId_vifHead : Ssc339g.eSnrPadId vifHead = 0 := by
  unfold Ssc339g.eSnrPadId
  rw [attrNum_vifHead (by decide)]
  decide

theorem u32InputPort_vifHead : Ssc339g.u32InputPort vifHead = 0 := by
  unfold Ssc339g.u32InputPort
  rw [attrNum_vifHead (by decide)]
  decide

/-- The text of an attribute that the set-up of an encoder begins with. -/
theorem getAttrWord_vencAttrs (novaCfg : NovaEncoderCfg) (d : String) {name : String}
    (h : name = "vencChn" ∨ name = "resolution" ∨ name = "compressionType") :
    (vencAttrs novaCfg).getAttrWord name d = (vencAttrs ⟨0, 0, 0⟩).getAttrWord name d ∧
      (vencAttrs1 novaCfg).getAttrWord name d = (vencAttrs1 ⟨0, 0, 0⟩).getAttrWord name d := by
  rcases h with rfl | rfl | rfl <;> simp [vencAttrs, vencAttrs1, Element.getAttrWord]

theorem vencChn_vencAttrs : Ssc339g.vencChn (vencAttrs novaCfg) = 0 ∧
    Ssc339g.vencChn (vencAttrs1 novaCfg) = 2 := by
  unfold Ssc339g.vencChn attrNum
  obtain ⟨h, h1⟩ := getAttrWord_vencAttrs novaCfg "0" (Or.inl rfl)
  rw [h, h1]
  decide

theorem vencSize_vencAttrs : Ssc339g.vencSize (vencAttrs novaCfg) = some (1920, 1080) ∧
    Ssc339g.vencSize (vencAttrs1 novaCfg) = some (1280, 720) := by
  unfold Ssc339g.vencSize
  obtain ⟨h, h1⟩ := getAttrWord_vencAttrs novaCfg "0" (Or.inr (Or.inl rfl))
  rw [h, h1]
  decide

theorem eType_vencAttrs : Ssc339g.eType (vencAttrs novaCfg) = some .h264e ∧
    Ssc339g.eType (vencAttrs1 novaCfg) = some .h264e := by
  unfold Ssc339g.eType
  obtain ⟨h, h1⟩ := getAttrWord_vencAttrs novaCfg "H264"
    (Or.inr (Or.inr rfl))
  rw [h, h1]
  decide

/-! ### Either channel by itself -/

theorem needs_channel₀ : (channel₀ novaCfg).needs sdk = calls₀ sdk := by
  have hsensor : Ssc339g.eBindSensorId (channel₀ novaCfg).vpe = some 0 :=
    show Ssc339g.eBindSensorId vpeAttrs = some 0 by decide
  have hsize : Ssc339g.vpeResolution (channel₀ novaCfg).vpe = some (3840, 2160) :=
    show Ssc339g.vpeResolution vpeAttrs = some (3840, 2160) by decide
  have hdivp : Ssc339g.divpResolution vpeAttrs = some (1920, 2160) := by decide
  have hmode : ¬ Ssc339g.NoRegroup (channel₀ novaCfg).vpe :=
    show ¬ Ssc339g.NoRegroup vpeAttrs by decide
  unfold Channel.needs Channel.detour
  rw [Channel.intake_eq hsensor hsize,
    Channel.outlet_eq eType_vencAttrs.1 vencSize_vencAttrs.1, if_neg hmode]
  unfold channel₀ Ssc339g.vifPort Ssc339g.vifDst Ssc339g.copySrc
  dsimp only
  rw [eSnrPadId_vifHead, vifDev_vifHead, vifChn_vifHead, u32InputPort_vifHead,
    vencChn_vencAttrs.1, hdivp]
  rfl

theorem needs_channel₁ : (channel₁ novaCfg).needs sdk = calls₁ sdk := by
  have hsensor : Ssc339g.eBindSensorId (channel₁ novaCfg).vpe = some 1 :=
    show Ssc339g.eBindSensorId vpeAttrs1 = some 1 by decide
  have hsize : Ssc339g.vpeResolution (channel₁ novaCfg).vpe = some (1280, 720) :=
    show Ssc339g.vpeResolution vpeAttrs1 = some (1280, 720) by decide
  have hmode : Ssc339g.NoRegroup (channel₁ novaCfg).vpe :=
    show Ssc339g.NoRegroup vpeAttrs1 by decide
  unfold Channel.needs
  rw [Channel.intake_eq hsensor hsize,
    Channel.outlet_eq eType_vencAttrs.2 vencSize_vencAttrs.2, if_pos hmode, List.append_nil]
  unfold channel₁
  dsimp only
  rw [vencChn_vencAttrs.2]
  rfl

theorem composes_vifHead : Ssc339g.Composes vifHead := by
  obtain ⟨web, hweb, hcols, hrows, htab⟩ := webPara_vifHead
  refine fun inFrameData outFrameData => ⟨web, (inFrameData, 0), hweb, ?_⟩
  apply Vif.reorganizeYUV_of_source_self (valid_eight hcols hrows htab) (fills_eight hcols hrows)
  intro i hi
  rw [cells_eq hcols hrows] at hi
  exact source_self htab hi

theorem ownNumbers_channel₀ : (channel₀ novaCfg).OwnNumbers := by
  have hvpe : Ssc339g.vpeChn vpeAttrs = Ssc339g.vifDev vifHead := by
    rw [vifDev_vifHead]
    decide
  have hvenc : attrNum vpeAttrs "vencChn" = Ssc339g.vencChn (vencAttrs novaCfg) := by
    rw [vencChn_vencAttrs.1]
    decide
  exact ⟨hvpe, hvenc⟩

/-- The elements of channel 0 agree if its encoder is on device 0. -/
theorem agrees_channel₀ (h : Regroups sdk) : Channel.Agrees sdk (channel₀ novaCfg) := by
  have hdev : sdk.getChnDevid 0 0 = 0 := by
    unfold Sdk.getChnDevid
    rw [if_pos (h.ret_eq _ (by simp [calls₀, vencCalls])), h.dev_eq]
  have hmode : vifHead.getAttrWord "mode" "0" = "regroup" := by
    rw [getAttrWord_vifHead (by decide)]
    decide
  have hbuffer : Ssc339g.vencResolution vifHead = some Ssc339g.viSize := by
    unfold Ssc339g.vencResolution
    rw [getAttrWord_vifHead (by decide)]
    decide
  have hsize : Ssc339g.vpeResolution vpeAttrs = some Ssc339g.viSize := by decide
  have hsensor : Ssc339g.eBindSensorId vpeAttrs = some (Ssc339g.eSnrPadId vifHead) := by
    rw [eSnrPadId_vifHead]
    decide
  exact ⟨⟨hsensor, u32InputPort_vifHead, ownNumbers_channel₀.vpeChn_eq⟩,
    ownNumbers_channel₀.vencChn_eq,
    Option.ne_none_iff_exists'.mpr ⟨_, eType_vencAttrs.1⟩,
    fun _ => ⟨hmode, vifDev_vifHead, hdev, hsize, hbuffer, composes_vifHead⟩⟩

theorem ownNumbers_channel₁ : (channel₁ novaCfg).OwnNumbers := by
  have hvpe : Ssc339g.vpeChn vpeAttrs1 = Ssc339g.vifDev vifAttrs1 := by decide
  have hvenc : attrNum vpeAttrs1 "vencChn" = Ssc339g.vencChn (vencAttrs1 novaCfg) := by
    rw [vencChn_vencAttrs.2]
    decide
  exact ⟨hvpe, hvenc⟩

theorem agrees_channel₁ : Channel.Agrees sdk (channel₁ novaCfg) := by
  have hmode : Ssc339g.NoRegroup (channel₁ novaCfg).vpe :=
    show Ssc339g.NoRegroup vpeAttrs1 by decide
  have hsensor : Ssc339g.eBindSensorId vpeAttrs1 = some (Ssc339g.eSnrPadId vifAttrs1) := by decide
  have hport : Ssc339g.u32InputPort vifAttrs1 = 0 := by decide
  exact ⟨⟨hsensor, hport, ownNumbers_channel₁.vpeChn_eq⟩, ownNumbers_channel₁.vencChn_eq,
    Option.ne_none_iff_exists'.mpr ⟨_, eType_vencAttrs.2⟩, fun h => absurd hmode h⟩

/-- What channel 0 feeds its encoder. -/
theorem fed_channel₀ (novaCfg : NovaEncoderCfg) :
    ((channel₀ novaCfg).board sdk).Fed sdk pad chn created fed ↔
      pad = 0 ∧ chn = 0 ∧ created = (1920, 1080) ∧ fed = (1920, 2160) ∧ Regroups sdk := by
  have hpad : Ssc339g.eSnrPadId (channel₀ novaCfg).vif = 0 := eSnrPadId_vifHead
  have hchn : Ssc339g.vencChn (channel₀ novaCfg).venc = 0 := vencChn_vencAttrs.1
  have hcreated : Ssc339g.vencSize (channel₀ novaCfg).venc = some (1920, 1080) :=
    vencSize_vencAttrs.1
  have hfed : (channel₀ novaCfg).fedSize = some (1920, 2160) :=
    show (if Ssc339g.NoRegroup vpeAttrs then Ssc339g.vpeResolution vpeAttrs
      else Ssc339g.divpResolution vpeAttrs) = some (1920, 2160) by decide
  have hmode : ¬ Ssc339g.NoRegroup (channel₀ novaCfg).vpe :=
    show ¬ Ssc339g.NoRegroup vpeAttrs by decide
  constructor
  · intro h
    obtain ⟨hpad', hchn', hcreated', hfed', hagrees, hret⟩ := Channel.feeds_of_fed h
    rw [needs_channel₀] at hret
    have hdev := (hagrees.regroups hmode).divpDev_eq
    unfold Sdk.getChnDevid at hdev
    rw [if_pos (hret _ (by simp [calls₀, vencCalls]))] at hdev
    exact ⟨hpad'.trans hpad, hchn'.trans hchn, Option.some.inj (hcreated'.symm.trans hcreated),
      Option.some.inj (hfed'.symm.trans hfed), hret, hdev⟩
  · rintro ⟨rfl, rfl, rfl, rfl, h⟩
    refine Channel.fed_of_feeds ⟨hpad.symm, hchn.symm, hcreated, hfed, agrees_channel₀ h, ?_⟩
    rw [needs_channel₀]
    exact h.ret_eq

/-- What channel 1 feeds its encoder. -/
theorem fed_channel₁ (novaCfg : NovaEncoderCfg) :
    ((channel₁ novaCfg).board sdk).Fed sdk pad chn created fed ↔
      pad = 1 ∧ chn = 2 ∧ created = (1280, 720) ∧ fed = (1280, 720) ∧ PassesOn sdk := by
  have hpad : Ssc339g.eSnrPadId (channel₁ novaCfg).vif = 1 :=
    show Ssc339g.eSnrPadId vifAttrs1 = 1 by decide
  have hchn : Ssc339g.vencChn (channel₁ novaCfg).venc = 2 := vencChn_vencAttrs.2
  have hcreated : Ssc339g.vencSize (channel₁ novaCfg).venc = some (1280, 720) :=
    vencSize_vencAttrs.2
  have hfed : (channel₁ novaCfg).fedSize = some (1280, 720) :=
    show (if Ssc339g.NoRegroup vpeAttrs1 then Ssc339g.vpeResolution vpeAttrs1
      else Ssc339g.divpResolution vpeAttrs1) = some (1280, 720) by decide
  constructor
  · intro h
    obtain ⟨hpad', hchn', hcreated', hfed', -, hret⟩ := Channel.feeds_of_fed h
    rw [needs_channel₁] at hret
    exact ⟨hpad'.trans hpad, hchn'.trans hchn, Option.some.inj (hcreated'.symm.trans hcreated),
      Option.some.inj (hfed'.symm.trans hfed), hret⟩
  · rintro ⟨rfl, rfl, rfl, rfl, h⟩
    refine Channel.fed_of_feeds ⟨hpad.symm, hchn.symm, hcreated, hfed, agrees_channel₁, ?_⟩
    rw [needs_channel₁]
    exact h

/-! ### Both channels -/

theorem apart_channels : Ssc339g.Apart [channel₀ novaCfg, channel₁ novaCfg'] := by
  have hmode : ¬ (channel₁ novaCfg').UsesDivp :=
    show ¬ (vifAttrs1.getAttrWord "mode" "0" = "regroup" ∨ ¬ Ssc339g.NoRegroup vpeAttrs1) by decide
  have hpad : (0 : UInt32) ≠ Ssc339g.eSnrPadId vifAttrs1 := by decide
  have hdev : (0 : UInt32) ≠ Ssc339g.vifDev vifAttrs1 := by decide
  have hvif : (0 : UInt32) ≠ Ssc339g.vifChn vifAttrs1 := by decide
  have hvenc : (0 : UInt32) ≠ Ssc339g.vencChn (vencAttrs1 novaCfg') := by
    rw [vencChn_vencAttrs.2]
    decide
  have hdisjoint : ∀ k ∈ (channel₀ novaCfg).keys, k ∉ (channel₁ novaCfg').keys := by
    intro k hk hk'
    cases k with
    | pad n => exact hpad ((eSnrPadId_vifHead.symm.trans hk.symm).trans hk')
    | dev n => exact hdev ((vifDev_vifHead.symm.trans hk.symm).trans hk')
    | vifChn n => exact hvif ((vifChn_vifHead.symm.trans hk.symm).trans hk')
    | vpeChn n => exact hdev ((vifDev_vifHead.symm.trans hk.symm).trans hk')
    | divp => exact hmode hk'
    | vencChn n => exact hvenc ((vencChn_vencAttrs.1.symm.trans hk.symm).trans hk')
  constructor
  · intro ch hch
    simp only [List.mem_cons, List.not_mem_nil, or_false] at hch
    rcases hch with rfl | rfl
    · exact ownNumbers_channel₀
    · exact ownNumbers_channel₁
  · intro ch hch ch' hch' k hk hk'
    simp only [List.mem_cons, List.not_mem_nil, or_false] at hch hch'
    rcases hch with rfl | rfl <;> rcases hch' with rfl | rfl
    · rfl
    · exact absurd hk' (hdisjoint k hk)
    · exact absurd hk (hdisjoint k hk')
    · rfl

/-- The elements of a pipeline are those of a channel. -/
structure Pipeline.Is (p : Pipeline) (ch : Channel) : Prop where
  vif_eq : p.mElemHead = ch.vif
  vpe_eq : p.elemVps = ch.vpe
  venc_eq : p.elemVenc0 = ch.venc

/-- The board of a player has what its two channels have by themselves. -/
theorem isOf_board {player : Instance} {ch ch' : Channel} (h : player.mElemHead1.Is ch)
    (h' : player.mElemHead2.Is ch') : (player.board sdk).IsOf sdk [ch, ch'] := by
  have hboard := Ssc339g.isOf_two sdk ch ch'
  rw [← Ssc339g.connect_eq ch player.mElemHead1.rtspServer0.toElement ch.vpe_class ch.venc_class,
    ← Ssc339g.connect_eq ch' player.mElemHead1.rtspServer0.toElement ch.vpe_class ch.venc_class]
    at hboard
  unfold Instance.board Instance.start Pipeline.startElements
  dsimp only
  rw [h.vif_eq, h.vpe_eq, h.venc_eq, h'.vif_eq, h'.vpe_eq, h'.venc_eq]
  exact hboard

theorem getInstance_eq_ok {g g' : Globals} {chn1 chn2 : Int32} {player : Instance}
    (h : getInstance g chn1 chn2 = .ok (g', player)) :
    ∃ cfg1 cfg2 g₁, novaEncoderInitOf g chn1 cfg1 = .ok (g₁, player.mElemHead1) ∧
      novaEncoderInitOf g₁ chn2 cfg2 = .ok (g', player.mElemHead2) := by
  unfold getInstance at h
  obtain ⟨r1, hinit1, h⟩ := Checked.bind_eq_ok.mp h
  obtain ⟨r2, hinit2, h⟩ := Checked.bind_eq_ok.mp h
  obtain ⟨rfl, rfl⟩ := Prod.mk.inj (Except.ok.inj h)
  exact ⟨_, _, r1.1, hinit1, hinit2⟩

theorem is_channel₀ {g g' : Globals} {p : Pipeline}
    (h : novaEncoderInitOf g 0 novaCfg = .ok (g', p)) : p.Is (channel₀ novaCfg) := by
  obtain ⟨-, -, -, rfl⟩ := novaEncoderInit_eq_ok_iff.mp h
  exact ⟨rfl, rfl, rfl⟩

theorem is_channel₁ {g g' : Globals} {p : Pipeline}
    (h : novaEncoderInitOf g 1 novaCfg = .ok (g', p)) : p.Is (channel₁ novaCfg) := by
  obtain ⟨-, rfl⟩ := Prod.mk.inj (Except.ok.inj h)
  exact ⟨rfl, rfl, rfl⟩

/-- **What a player feeds its encoders**: whatever the configuration holds and the SDK answers, once
both channels are set up, in either order, and linked, encoder 2 gets the pictures of the sensor on
pad 1 in its own size if the calls for it succeed, and encoder 0 those of the sensor on pad 0, if
its calls succeed and it is on device 0, in a size it was not created for.  No encoder gets any
other pictures. -/
theorem fed_of_getInstance (sdk : Sdk) {g g' : Globals} {chn1 chn2 : Int32} {player : Instance}
    (h : getInstance g chn1 chn2 = .ok (g', player))
    (hchn : (chn1 = 0 ∧ chn2 = 1) ∨ (chn1 = 1 ∧ chn2 = 0)) (pad chn : UInt32)
    (created fed : Ssc339g.Size) : (player.board sdk).Fed sdk pad chn created fed ↔
      (pad = 0 ∧ chn = 0 ∧ created = (1920, 1080) ∧ fed = (1920, 2160) ∧ Regroups sdk) ∨
        (pad = 1 ∧ chn = 2 ∧ created = (1280, 720) ∧ fed = (1280, 720) ∧ PassesOn sdk) := by
  obtain ⟨cfg1, cfg2, g₁, hinit1, hinit2⟩ := getInstance_eq_ok h
  obtain ⟨cfg, cfg', hboard⟩ : ∃ cfg cfg',
      (player.board sdk).IsOf sdk [channel₀ cfg, channel₁ cfg'] := by
    rcases hchn with ⟨rfl, rfl⟩ | ⟨rfl, rfl⟩
    · exact ⟨cfg1, cfg2, isOf_board (is_channel₀ hinit1) (is_channel₁ hinit2)⟩
    · exact ⟨cfg2, cfg1, (isOf_board (is_channel₁ hinit1) (is_channel₀ hinit2)).swap⟩
  rw [Ssc339g.fed_iff_exists hboard apart_channels, ← fed_channel₀ cfg, ← fed_channel₁ cfg']
  simp only [List.mem_cons, List.not_mem_nil, or_false, exists_eq_or_imp, exists_eq_left]

/-- A library whose calls succeed. -/
def willingSdk : Sdk := ⟨fun _ => 0, fun _ => 0⟩

theorem fed_unfixedStart :
    ∃ g' player, getInstance unfixedStart 0 1 = .ok (g', player) ∧
      (player.board willingSdk).Fed willingSdk 0 0 (1920, 1080) (1920, 2160) ∧
      (player.board willingSdk).Fed willingSdk 1 2 (1280, 720) (1280, 720) := by
  obtain ⟨r, hinit⟩ : ∃ r, getInstance unfixedStart 0 1 = .ok r := ⟨_, rfl⟩
  refine ⟨_, _, hinit, ?_, ?_⟩
  · exact (fed_of_getInstance willingSdk hinit (Or.inl ⟨rfl, rfl⟩) 0 0 _ _).mpr
      (Or.inl ⟨rfl, rfl, rfl, rfl, fun _ _ => rfl, rfl⟩)
  · exact (fed_of_getInstance willingSdk hinit (Or.inl ⟨rfl, rfl⟩) 1 2 _ _).mpr
      (Or.inr ⟨rfl, rfl, rfl, rfl, fun _ _ => rfl⟩)

end Mvr.Player
