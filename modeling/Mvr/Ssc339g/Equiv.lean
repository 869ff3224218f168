import Mvr.Ssc339g.Delivery

/-!
# From the sensor to the encoder

Each element binds what it takes the channels of the others to be, so that a channel works only if
its elements agree: `fed_iff` says exactly which encoder is fed, with the pictures of which sensor
and in what size, by the attributes of the elements and by what the vendor's calls answer.  Where
the frames are regrouped it asks for device 0 throughout and for pictures of the composer's size, so
that they fit an encoder only if it and the scale are of that size too (`size_of_regrouped`).
-/

namespace Mvr.Ssc339g

variable {sdk : Sdk} {ch : Channel} {c : Call}

/-! ### Calls that are made -/

theorem mem_map_made_of_mem_run {l : List Stmt} (h : c ∈ (run sdk l).1) :
    c ∈ l.map Stmt.made := by
  induction l with
  | nil => cases h
  | cons st rest ih =>
    rw [List.map_cons, List.mem_cons]
    cases st with
    | call c' => exact (List.mem_cons.mp h).imp_right ih
    | execFunc c' =>
      unfold run at h
      split_ifs at h with hret
      · exact Or.inl (List.mem_singleton.mp h)
      · exact (List.mem_cons.mp h).imp_right ih

/-- A function whose checked calls succeed makes all of its calls. -/
theorem run_eq_of_ret {l : List Stmt} (h : ∀ c, .execFunc c ∈ l → sdk.ret c = 0) :
    run sdk l = (l.map Stmt.made, 0) := by
  induction l with
  | nil => rfl
  | cons st rest ih =>
    specialize ih fun c hc => h c (List.mem_cons_of_mem _ hc)
    cases st with
    | call c' =>
      unfold run
      rw [ih]
      rfl
    | execFunc c' =>
      unfold run
      rw [if_neg (not_not.mpr (h c' List.mem_cons_self)), ih]
      rfl

/-- A checked call by itself. -/
theorem run_execFunc (c : Call) : run sdk [.execFunc c] = ([c], sdk.ret c) := by
  unfold run
  split_ifs with hret
  · rfl
  · rw [not_not.mp hret]
    rfl

/-- Two checked calls succeed together. -/
theorem run_execFunc_execFunc_snd {c c' : Call} :
    (run sdk [.execFunc c, .execFunc c']).2 = 0 ↔ sdk.ret c = 0 ∧ sdk.ret c' = 0 := by
  unfold run
  rw [run_execFunc]
  split_ifs with hret
  · exact iff_of_false hret fun h => hret h.1
  · exact (and_iff_right (not_not.mp hret)).symm

namespace Channel

/-- The numbers and the sizes in the calls of a channel are those of its elements. -/
def Numbers (sdk : Sdk) (ch : Channel) : Call → Prop
  | .snrSetPlaneMode pad | .snrSetRes pad | .snrEnable pad | .snrGetPadInfo pad
  | .snrGetPlaneInfo pad => pad = eSnrPadId ch.vif
  | .vifSetDevAttr dev pad => dev = vifDev ch.vif ∧ pad = eSnrPadId ch.vif
  | .vifEnableDev dev => dev = vifDev ch.vif
  | .vifSetChnPortAttr chn port pad =>
    chn = vifChn ch.vif ∧ port = u32InputPort ch.vif ∧ pad = eSnrPadId ch.vif
  | .vifEnableChnPort chn port => chn = vifChn ch.vif ∧ port = u32InputPort ch.vif
  | .sysSetChnMmaConf _ _ chn => chn = vifChn ch.vif
  | .vpeSetChannelParam chn | .vpeStartChannel chn => chn = vpeChn ch.vpe
  | .vpeCreateChannel chn sensor => chn = vpeChn ch.vpe ∧ sensor = eBindSensorId ch.vpe
  | .vpeGetPortMode chn port | .vpeEnablePort chn port => chn = vpeChn ch.vpe ∧ port = 0
  | .vpeSetPortMode chn port size =>
    chn = vpeChn ch.vpe ∧ port = 0 ∧ size = vpeResolution ch.vpe
  | .divpCreateChn chn | .divpStartChn chn => chn = 0 ∧ ¬ NoRegroup ch.vpe
  | .divpSetOutputPortAttr chn size =>
    chn = 0 ∧ size = divpResolution ch.vpe ∧ ¬ NoRegroup ch.vpe
  | .vencCreateChn chn type size =>
    chn = vencChn ch.venc ∧ type = eType ch.venc ∧ size = vencSize ch.venc
  | .vencStartRecvPic chn => chn = vencChn ch.venc
  -- the elements ask for the devices of other encoders too
  | .vencGetChnDevid _ => True
  | .sysBindChnPort2 src dst => (src = vpeSrc ch.vpe ∧ dst = vpeDst sdk ch.vpe) ∨
    (src = vifPort ch.vif ∧ dst = vifDst ch.vif)
  | .sysSetChnOutputPortDepth p _ _ =>
    p = ⟨.vif, 0, vifChn ch.vif, u32InputPort ch.vif⟩ ∨ p = ⟨.vpe, 0, vpeChn ch.vpe, 0⟩ ∨
      p = copySrc ch.vif
  | .sysGetFd p => p = copySrc ch.vif

/-! ### The functions of the classes -/

theorem vpe_class_ne (ch : Channel) : ch.vpe.mClassName ≠ "vif" := by
  rw [ch.vpe_class]
  decide

theorem venc_class_ne (ch : Channel) :
    ch.venc.mClassName ≠ "vif" ∧ ch.venc.mClassName ≠ "vpe" := by
  rw [ch.venc_class]
  decide

theorem linkTo_vif (ch : Channel) (elem : Element) :
    linkTo sdk ch.vif elem = vifLinkTo sdk ch.vif elem := if_pos ch.vif_class

theorem linkTo_vpe (ch : Channel) (elem : Element) :
    linkTo sdk ch.vpe elem = vpeLinkTo sdk ch.vpe elem := by
  unfold linkTo
  rw [if_neg ch.vpe_class_ne, if_pos ch.vpe_class]

theorem linkTo_venc (ch : Channel) (elem : Element) : linkTo sdk ch.venc elem = .empty := by
  unfold linkTo
  rw [if_neg ch.venc_class_ne.1, if_neg ch.venc_class_ne.2]

theorem startElements_channel (sdk : Sdk) (ch : Channel) :
    startElements sdk ch.vif ch.vpe ch.venc =
      ⟨(run sdk (vifStartSelf ch.vif)).1 ++ (run sdk (vpeStartSelf ch.vpe)).1 ++
        (run sdk (vencStartSelfData ch.venc)).1, []⟩ := by
  unfold startElements startSelf
  rw [if_pos ch.vif_class, if_neg ch.vpe_class_ne, if_pos ch.vpe_class,
    if_neg ch.venc_class_ne.1, if_neg ch.venc_class_ne.2, if_pos ch.venc_class]

theorem board_eq (sdk : Sdk) (ch : Channel) : ch.board sdk =
    startElements sdk ch.vif ch.vpe ch.venc ++
      (.empty ++ vpeLinkTo sdk ch.vpe ch.venc ++ vifLinkTo sdk ch.vif ch.vpe) := by
  unfold board connect
  rw [linkTo_venc, linkTo_vpe, linkTo_vif]

theorem made_board : (ch.board sdk).made =
    (run sdk (vifStartSelf ch.vif)).1 ++ (run sdk (vpeStartSelf ch.vpe)).1 ++
      (run sdk (vencStartSelfData ch.venc)).1 ++
      ((vpeLinkTo sdk ch.vpe ch.venc).made ++ (vifLinkTo sdk ch.vif ch.vpe).made) := by
  rw [board_eq, startElements_channel]
  rfl

theorem copied_board : (ch.board sdk).copied = (vifLinkTo sdk ch.vif ch.vpe).copied := by
  rw [board_eq, startElements_channel, vpeLinkTo, if_pos ch.venc_class]
  rfl

/-! ### The numbers in the calls -/

theorem numbers_of_mem_run {l : List Stmt} (hl : ∀ st ∈ l, Numbers sdk ch st.made)
    (h : c ∈ (run sdk l).1) : Numbers sdk ch c := by
  obtain ⟨st, hst, rfl⟩ := List.mem_map.mp (mem_map_made_of_mem_run h)
  exact hl st hst

theorem numbers_of_mem_yuvDataProcess (h : c ∈ (yuvDataProcess sdk ch.vif).made) :
    Numbers sdk ch c := by
  have hrun : ∀ c ∈ (run sdk [.execFunc (.sysSetChnOutputPortDepth (copySrc ch.vif) 2 3),
      .execFunc (.sysGetFd (copySrc ch.vif))]).1, Numbers sdk ch c := fun c =>
    numbers_of_mem_run (by simp [Numbers])
  unfold yuvDataProcess at h
  dsimp only at h
  split_ifs at h
  · exact hrun c h
  · rcases List.mem_append.mp h with h | h
    · exact hrun c h
    · rw [List.mem_singleton.mp h]
      trivial

theorem numbers_of_mem_vifLinkTo (h : c ∈ (vifLinkTo sdk ch.vif ch.vpe).made) :
    Numbers sdk ch c := by
  have hbind : ∀ c ∈ (run sdk [.execFunc (.sysBindChnPort2 (vifPort ch.vif) (vifDst ch.vif))]).1,
      Numbers sdk ch c := fun c => numbers_of_mem_run (by simp [Numbers])
  unfold vifLinkTo at h
  rw [if_pos ch.vpe_class] at h
  dsimp only at h
  split_ifs at h
  · exact hbind c h
  · rcases List.mem_append.mp h with h | h
    · exact hbind c h
    · exact numbers_of_mem_yuvDataProcess h
  · exact hbind c h

theorem numbers_of_mem_made (h : c ∈ (ch.board sdk).made) : Numbers sdk ch c := by
  rw [made_board, List.mem_append, List.mem_append, List.mem_append, List.mem_append] at h
  rcases h with ((h | h) | h) | h | h
  · exact numbers_of_mem_run (by simp [vifStartSelf, Numbers]) h
  · refine numbers_of_mem_run ?_ h
    by_cases hmode : NoRegroup ch.vpe <;> simp [vpeStartSelf, stVpeStartPort, Numbers, hmode]
  · exact numbers_of_mem_run (by simp [vencStartSelfData, Numbers]) h
  · unfold vpeLinkTo at h
    rw [if_pos ch.venc_class] at h
    exact numbers_of_mem_run (by simp [Numbers]) h
  · exact numbers_of_mem_vifLinkTo h

/-- The copying of a channel. -/
structure Copies (sdk : Sdk) (ch : Channel) (x : Copying) : Prop where
  mode_eq : ch.vif.getAttrWord "mode" "0" = "regroup"
  bound : sdk.ret (.sysBindChnPort2 (vifPort ch.vif) (vifDst ch.vif)) = 0
  depth_eq : sdk.ret (.sysSetChnOutputPortDepth (copySrc ch.vif) 2 3) = 0
  fd_eq : sdk.ret (.sysGetFd (copySrc ch.vif)) = 0
  eq : x = ⟨copySrc ch.vif, copyDst sdk, vencResolution ch.vif, ch.vif⟩

theorem mem_copied_iff {x : Copying} : x ∈ (ch.board sdk).copied ↔ Copies sdk ch x := by
  rw [copied_board]
  unfold vifLinkTo yuvDataProcess
  rw [if_pos ch.vpe_class, run_execFunc]
  dsimp only
  split_ifs with hbind hmode hres
  · exact iff_of_false List.not_mem_nil fun h => hbind h.bound
  · refine iff_of_false (fun h => ?_) fun h => hres (run_execFunc_execFunc_snd.mpr ⟨h.3, h.4⟩)
    rcases List.mem_append.mp h with h | h <;> cases h
  · obtain ⟨hdepth, hfd⟩ := run_execFunc_execFunc_snd.mp (not_not.mp hres)
    exact ⟨fun h => ⟨hmode, not_not.mp hbind, hdepth, hfd, List.mem_singleton.mp h⟩,
      fun h => List.mem_singleton.mpr h.eq⟩
  · exact iff_of_false List.not_mem_nil fun h => hmode h.mode_eq

/-! ### What a channel needs -/

/-- The calls that bring the pictures of the sensor out of the VPE. -/
def intake (ch : Channel) : List Call :=
  vifCalls (eSnrPadId ch.vif) (vifDev ch.vif) (vifChn ch.vif) (u32InputPort ch.vif) ++
    [.sysBindChnPort2 (vifPort ch.vif) (vifDst ch.vif),
      .vpeSetChannelParam (vpeChn ch.vpe),
      .vpeCreateChannel (vpeChn ch.vpe) (eBindSensorId ch.vpe),
      .vpeStartChannel (vpeChn ch.vpe)] ++
    (stVpeStartPort (vpeChn ch.vpe) 0 (vpeResolution ch.vpe)).map Stmt.made

/-- The calls that bring them on through the DIVP. -/
def detour (ch : Channel) : List Call :=
  [.sysSetChnOutputPortDepth (copySrc ch.vif) 2 3, .sysGetFd (copySrc ch.vif), .divpCreateChn 0,
    .divpSetOutputPortAttr 0 (divpResolution ch.vpe), .divpStartChn 0]

/-- The calls that bring them into the encoder. -/
def outlet (sdk : Sdk) (ch : Channel) : List Call :=
  (vencStartSelfData ch.venc).map Stmt.made ++
    [.sysBindChnPort2 (vpeSrc ch.vpe) (vencPort sdk (vencChn ch.venc))]

/-- The calls that the pictures depend on. -/
def needs (sdk : Sdk) (ch : Channel) : List Call :=
  ch.intake ++ ch.outlet sdk ++ if NoRegroup ch.vpe then [] else ch.detour

/-- The VPE channel is set up where the sensor's channel is bound to, and for its sensor. -/
structure TakesIn (ch : Channel) : Prop where
  sensor_eq : eBindSensorId ch.vpe = some (eSnrPadId ch.vif)
  port_eq : u32InputPort ch.vif = 0
  vpeChn_eq : vpeChn ch.vpe = vifDev ch.vif

/-- The frames of device 0 are regrouped, in the size of the composer. -/
structure Regroups (sdk : Sdk) (ch : Channel) : Prop where
  mode_eq : ch.vif.getAttrWord "mode" "0" = "regroup"
  vifDev_eq : vifDev ch.vif = 0
  divpDev_eq : sdk.getChnDevid 0 0 = 0
  vpe_size : vpeResolution ch.vpe = some viSize
  buffer_size : vencResolution ch.vif = some viSize
  composes : Composes ch.vif

/-- The elements of a channel agree with each other. -/
structure Agrees (sdk : Sdk) (ch : Channel) : Prop extends TakesIn ch where
  vencChn_eq : attrNum ch.vpe "vencChn" = vencChn ch.venc
  type_ne : eType ch.venc ≠ none
  regroups : ¬ NoRegroup ch.vpe → Regroups sdk ch

/-- The size of the pictures that the encoder is fed. -/
def fedSize (ch : Channel) : Option Size :=
  if NoRegroup ch.vpe then vpeResolution ch.vpe else divpResolution ch.vpe

/-- What leaves the ports of a channel. -/
structure Gives (sdk : Sdk) (ch : Channel) (pad : UInt32) (p : ChnPort) (size : Size) : Prop where
  pad_eq : pad = eSnrPadId ch.vif
  takesIn : TakesIn ch
  ret_intake : ∀ c ∈ ch.intake, sdk.ret c = 0
  cases : (p = ⟨.vpe, 0, vifDev ch.vif, 0⟩ ∧ vpeResolution ch.vpe = some size) ∨
    (p = ⟨.divp, 0, 0, 0⟩ ∧ divpResolution ch.vpe = some size ∧ ¬ NoRegroup ch.vpe ∧
      Regroups sdk ch ∧ ∀ c ∈ ch.detour, sdk.ret c = 0)

theorem intake_eq {pad : UInt32} {size : Size} (hsensor : eBindSensorId ch.vpe = some pad)
    (hsize : vpeResolution ch.vpe = some size) : ch.intake =
      vifCalls (eSnrPadId ch.vif) (vifDev ch.vif) (vifChn ch.vif) (u32InputPort ch.vif) ++
        .sysBindChnPort2 (vifPort ch.vif) (vifDst ch.vif) ::
          vpeCalls pad (vpeChn ch.vpe) 0 size := by
  unfold intake
  rw [hsensor, hsize, List.append_assoc]
  rfl

/-- What a sensor's channel is bound to. -/
theorem dst_of_bound_vif {src dst : ChnPort} (hsrc : src.eModId = .vif)
    (h : (ch.board sdk).Done sdk (.sysBindChnPort2 src dst)) :
    src = vifPort ch.vif ∧ dst = vifDst ch.vif := by
  rcases numbers_of_mem_made h.1 with ⟨rfl, -⟩ | hbound
  · unfold vpeSrc at hsrc
    split_ifs at hsrc
  · exact hbound

theorem gives_of_delivers {pad : UInt32} {p : ChnPort} {size : Size}
    (h : (ch.board sdk).Delivers sdk pad p size) : Gives sdk ch pad p size := by
  have hnum : ∀ {c}, (ch.board sdk).Done sdk c → Numbers sdk ch c := fun hc =>
    numbers_of_mem_made hc.1
  induction h with
  | @vpe dev chn port vpeChn' vpePort size hvif hbind hvpe =>
    obtain ⟨rfl, rfl⟩ := hnum (hvif (.vifSetDevAttr dev pad) (by simp [vifCalls]))
    obtain ⟨rfl, rfl, -⟩ := hnum (hvif (.vifSetChnPortAttr chn port (eSnrPadId ch.vif))
      (by simp [vifCalls]))
    obtain ⟨rfl, rfl, hsize⟩ := hnum (hvpe (.vpeSetPortMode vpeChn' vpePort (some size))
      (by simp [vpeCalls]))
    obtain ⟨-, hsensor⟩ := hnum (hvpe (.vpeCreateChannel (vpeChn ch.vpe) (some (eSnrPadId ch.vif)))
      (by simp [vpeCalls]))
    obtain ⟨hsrc, hdst⟩ := dst_of_bound_vif rfl hbind
    have hchn : vpeChn ch.vpe = vifDev ch.vif := congrArg ChnPort.u32ChnId hdst
    refine ⟨rfl, ⟨hsensor.symm, congrArg ChnPort.u32PortId hsrc, hchn⟩, fun c hc => ?_,
      Or.inl ⟨by rw [hchn], hsize.symm⟩⟩
    rw [intake_eq hsensor.symm hsize.symm, List.mem_append, List.mem_cons] at hc
    rcases hc with hc | rfl | hc
    · exact (hvif c hc).2
    · rw [← hsrc, ← hdst]
      exact hbind.2
    · exact (hvpe c hc).2
  | @divp src chn vifElement size hsrc hcopy hcomposes hdivp ih =>
    obtain ⟨hmode, -, hdepth, hfd, hcopying⟩ := mem_copied_iff.mp hcopy
    obtain ⟨rfl, hdst, hbuffer, rfl⟩ := Copying.mk.inj hcopying
    obtain ⟨rfl, hsize, hregroup⟩ := hnum (hdivp (.divpSetOutputPortAttr chn (some size))
      (by simp [divpCalls]))
    rcases ih.cases with ⟨hport, hvpe⟩ | ⟨hport, -⟩
    · refine ⟨ih.pad_eq, ih.takesIn, ih.ret_intake, Or.inr ⟨rfl, hsize.symm, hregroup,
        ⟨hmode, congrArg ChnPort.u32DevId hport, (congrArg ChnPort.u32DevId hdst).symm, hvpe,
          hbuffer.symm, hcomposes⟩, fun c hc => ?_⟩⟩
      unfold detour at hc
      rw [List.mem_cons, List.mem_cons, ← hsize] at hc
      rcases hc with rfl | rfl | hc
      · exact hdepth
      · exact hfd
      · exact (hdivp c hc).2
    · cases congrArg ChnPort.eModId hport

/-- The linking binds the encoder where the SDK put it, if its device can be asked for. -/
theorem vpeDst_eq (hchn : attrNum ch.vpe "vencChn" = vencChn ch.venc)
    (hdev : sdk.ret (.vencGetChnDevid (vencChn ch.venc)) = 0) :
    vpeDst sdk ch.vpe = vencPort sdk (vencChn ch.venc) := by
  unfold vpeDst vencPort Sdk.getChnDevid
  rw [hchn, if_pos hdev]

theorem vifCalls_subset : vifCalls (eSnrPadId ch.vif) (vifDev ch.vif) (vifChn ch.vif)
    (u32InputPort ch.vif) ⊆ (vifStartSelf ch.vif).map Stmt.made := by
  simp [vifCalls, vifStartSelf]

theorem vpeCalls_subset {pad : UInt32} {size : Size} (hsensor : eBindSensorId ch.vpe = some pad)
    (hsize : vpeResolution ch.vpe = some size) :
    vpeCalls pad (vpeChn ch.vpe) 0 size ⊆ (vpeStartSelf ch.vpe).map Stmt.made := by
  unfold vpeStartSelf
  rw [hsensor, hsize, List.map_append]
  exact List.subset_append_left _ _

theorem divpCalls_subset {size : Size} (hmode : ¬ NoRegroup ch.vpe)
    (hsize : divpResolution ch.vpe = some size) :
    divpCalls 0 size ⊆ (vpeStartSelf ch.vpe).map Stmt.made := by
  unfold vpeStartSelf
  rw [hsize, List.map_append, if_neg hmode]
  exact List.subset_append_right _ _

theorem outlet_eq {type : ModType} {size : Size} (htype : eType ch.venc = some type)
    (hsize : vencSize ch.venc = some size) : ch.outlet sdk =
      vencCalls (vencChn ch.venc) type size ++
        [.sysBindChnPort2 (vpeSrc ch.vpe) (vencPort sdk (vencChn ch.venc))] := by
  unfold outlet vencStartSelfData
  rw [htype, hsize]
  rfl

theorem vencCalls_subset {type : ModType} {size : Size} (htype : eType ch.venc = some type)
    (hsize : vencSize ch.venc = some size) :
    vencCalls (vencChn ch.venc) type size ⊆ (vencStartSelfData ch.venc).map Stmt.made := by
  unfold vencStartSelfData
  rw [htype, hsize]
  exact List.Subset.refl _

/-! ### The calls are made -/

section Made

variable (h : ∀ c ∈ ch.needs sdk, sdk.ret c = 0)
include h

theorem ret_of_mem_intake {c : Call} (hc : c ∈ ch.intake) : sdk.ret c = 0 := by
  refine h c ?_
  unfold needs
  rw [List.append_assoc]
  exact List.mem_append_left _ hc

theorem ret_of_mem_outlet {c : Call} (hc : c ∈ ch.outlet sdk) : sdk.ret c = 0 := by
  refine h c ?_
  unfold needs
  exact List.mem_append_left _ (List.mem_append_right _ hc)

theorem ret_of_mem_detour (hmode : ¬ NoRegroup ch.vpe) {c : Call} (hc : c ∈ ch.detour) :
    sdk.ret c = 0 := by
  refine h c ?_
  unfold needs
  rw [if_neg hmode]
  exact List.mem_append_right _ hc

/-- The elements make all of their calls. -/
theorem mem_made_of_mem_startSelf {c : Call}
    (hc : c ∈ (vifStartSelf ch.vif ++ vpeStartSelf ch.vpe ++ vencStartSelfData ch.venc).map
      Stmt.made) : c ∈ (ch.board sdk).made := by
  have hvif : run sdk (vifStartSelf ch.vif) = ((vifStartSelf ch.vif).map Stmt.made, 0) :=
    run_eq_of_ret fun c hc => by simp [vifStartSelf] at hc
  have hvpe : run sdk (vpeStartSelf ch.vpe) = ((vpeStartSelf ch.vpe).map Stmt.made, 0) := by
    refine run_eq_of_ret fun c hc => ?_
    unfold vpeStartSelf at hc
    rw [List.mem_append, List.mem_append] at hc
    rcases hc with (hc | hc) | hc
    · simp at hc
    · refine ret_of_mem_intake h ?_
      unfold intake
      exact List.mem_append_right _ (List.mem_map.mpr ⟨_, hc, rfl⟩)
    · split_ifs at hc with hmode
      · cases hc
      · refine ret_of_mem_detour h hmode ?_
        unfold detour
        simp only [List.mem_cons, Stmt.execFunc.injEq, reduceCtorEq, List.not_mem_nil, or_false,
          false_or] at hc
        rcases hc with rfl | rfl <;> simp
  have hvenc : run sdk (vencStartSelfData ch.venc) =
      ((vencStartSelfData ch.venc).map Stmt.made, 0) := by
    refine run_eq_of_ret fun c hc => ret_of_mem_outlet h ?_
    unfold outlet
    exact List.mem_append_left _ (List.mem_map.mpr ⟨_, hc, rfl⟩)
  rw [made_board, hvif, hvpe, hvenc, ← List.map_append, ← List.map_append]
  exact List.mem_append_left _ hc

/-- The links are made. -/
theorem mem_made_vifLinkTo :
    .sysBindChnPort2 (vifPort ch.vif) (vifDst ch.vif) ∈ (ch.board sdk).made := by
  have hbind : sdk.ret (.sysBindChnPort2 (vifPort ch.vif) (vifDst ch.vif)) = 0 :=
    ret_of_mem_intake h (by simp [intake])
  rw [made_board]
  refine List.mem_append_right _ (List.mem_append_right _ ?_)
  unfold vifLinkTo
  rw [if_pos ch.vpe_class, run_execFunc]
  dsimp only
  rw [if_neg (not_not.mpr hbind)]
  split_ifs
  · exact List.mem_append_left _ List.mem_cons_self
  · exact List.mem_cons_self

theorem done_vpeLinkTo (hchn : attrNum ch.vpe "vencChn" = vencChn ch.venc) :
    (ch.board sdk).Done sdk
      (.sysBindChnPort2 (vpeSrc ch.vpe) (vencPort sdk (vencChn ch.venc))) := by
  have hbind := ret_of_mem_outlet h (c := .sysBindChnPort2 (vpeSrc ch.vpe)
    (vencPort sdk (vencChn ch.venc))) (by simp [outlet])
  have hdst : vpeDst sdk ch.vpe = vencPort sdk (vencChn ch.venc) :=
    vpeDst_eq hchn (ret_of_mem_outlet h (by simp [outlet, vencStartSelfData]))
  refine ⟨?_, hbind⟩
  rw [made_board]
  refine List.mem_append_right _ (List.mem_append_left _ ?_)
  unfold vpeLinkTo
  rw [if_pos ch.venc_class, run_eq_of_ret]
  · simp [hdst]
  · intro c hc
    simp only [List.mem_cons, reduceCtorEq, Stmt.execFunc.injEq, List.not_mem_nil, or_false,
      false_or] at hc
    rw [hc, hdst]
    exact hbind

theorem delivers_vpe (hin : TakesIn ch) {size : Size}
    (hsize : vpeResolution ch.vpe = some size) :
    (ch.board sdk).Delivers sdk (eSnrPadId ch.vif) ⟨.vpe, 0, vifDev ch.vif, 0⟩ size := by
  have hintake := intake_eq hin.sensor_eq hsize
  have hvif : (ch.board sdk).Has sdk (vifCalls (eSnrPadId ch.vif) (vifDev ch.vif) (vifChn ch.vif)
      (u32InputPort ch.vif)) := by
    refine fun c hc => ⟨mem_made_of_mem_startSelf h ?_, ret_of_mem_intake h ?_⟩
    · rw [List.map_append, List.map_append, List.append_assoc]
      exact List.mem_append_left _ (vifCalls_subset hc)
    · rw [hintake]
      exact List.mem_append_left _ hc
  have hbind : sdk.ret (.sysBindChnPort2 (vifPort ch.vif) (vifDst ch.vif)) = 0 :=
    ret_of_mem_intake h (by simp [intake])
  have hvpe : (ch.board sdk).Has sdk (vpeCalls (eSnrPadId ch.vif) (vpeChn ch.vpe) 0 size) := by
    refine fun c hc => ⟨mem_made_of_mem_startSelf h ?_, ret_of_mem_intake h ?_⟩
    · rw [List.map_append, List.map_append]
      exact List.mem_append_left _ (List.mem_append_right _
        (vpeCalls_subset hin.sensor_eq hsize hc))
    · rw [hintake]
      exact List.mem_append_right _ (List.mem_cons_of_mem _ hc)
  rw [hin.port_eq] at hvif
  rw [hin.vpeChn_eq] at hvpe
  exact .vpe hvif ⟨mem_made_vifLinkTo h, hbind⟩ hvpe

theorem delivers_divp (hin : TakesIn ch) (hmode : ¬ NoRegroup ch.vpe) (hre : Regroups sdk ch)
    {size : Size} (hsize : divpResolution ch.vpe = some size) :
    (ch.board sdk).Delivers sdk (eSnrPadId ch.vif) ⟨.divp, 0, 0, 0⟩ size := by
  have hcopy : ⟨⟨.vpe, 0, vifDev ch.vif, 0⟩, ⟨.divp, 0, 0, 0⟩, some viSize, ch.vif⟩ ∈
      (ch.board sdk).copied := by
    refine mem_copied_iff.mpr ⟨hre.mode_eq, ret_of_mem_intake h (by simp [intake]),
      ret_of_mem_detour h hmode (by simp [detour]), ret_of_mem_detour h hmode (by simp [detour]),
      ?_⟩
    unfold copySrc copyDst
    rw [hre.vifDev_eq, hre.divpDev_eq, hre.buffer_size]
  refine .divp (delivers_vpe h hin hre.vpe_size) hcopy hre.composes fun c hc =>
    ⟨mem_made_of_mem_startSelf h ?_, ret_of_mem_detour h hmode ?_⟩
  · rw [List.map_append, List.map_append]
    exact List.mem_append_left _ (List.mem_append_right _ (divpCalls_subset hmode hsize hc))
  · unfold detour
    rw [hsize]
    exact List.mem_cons_of_mem _ (List.mem_cons_of_mem _ hc)

theorem has_vencCalls {type : ModType} {size : Size} (htype : eType ch.venc = some type)
    (hsize : vencSize ch.venc = some size) :
    (ch.board sdk).Has sdk (vencCalls (vencChn ch.venc) type size) := by
  refine fun c hc => ⟨mem_made_of_mem_startSelf h ?_, ret_of_mem_outlet h ?_⟩
  · rw [List.map_append]
    exact List.mem_append_right _ (vencCalls_subset htype hsize hc)
  · rw [outlet_eq htype hsize]
    exact List.mem_append_left _ hc

end Made

/-! ### The encoder that is fed -/

/-- What an encoder is bound to. -/
theorem src_of_bound {src : ChnPort} {chn : UInt32}
    (h : (ch.board sdk).Done sdk (.sysBindChnPort2 src (vencPort sdk chn))) :
    src = vpeSrc ch.vpe ∧ chn = attrNum ch.vpe "vencChn" := by
  rcases numbers_of_mem_made h.1 with ⟨hsrc, hdst⟩ | ⟨-, hdst⟩
  · exact ⟨hsrc, congrArg ChnPort.u32ChnId hdst⟩
  · cases congrArg ChnPort.eModId hdst

/-- The channel takes the pictures of its sensor to its encoder. -/
structure Feeds (sdk : Sdk) (ch : Channel) (pad chn : UInt32) (created fed : Size) : Prop where
  pad_eq : pad = eSnrPadId ch.vif
  chn_eq : chn = vencChn ch.venc
  created_eq : vencSize ch.venc = some created
  fed_eq : ch.fedSize = some fed
  agrees : Agrees sdk ch
  ret_eq : ∀ c ∈ ch.needs sdk, sdk.ret c = 0

variable {pad chn : UInt32} {created fed : Size}

theorem feeds_of_fed (h : (ch.board sdk).Fed sdk pad chn created fed) :
    Feeds sdk ch pad chn created fed := by
  obtain ⟨⟨type, hvenc⟩, src, hsrc, hbind⟩ := h
  obtain ⟨rfl, htype, hcreated⟩ := numbers_of_mem_made
    (hvenc (.vencCreateChn chn (some type) (some created)) (by simp [vencCalls])).1
  obtain ⟨rfl, hchn⟩ := src_of_bound hbind
  have hgives := gives_of_delivers hsrc
  have hout : ∀ c ∈ ch.outlet sdk, sdk.ret c = 0 := by
    intro c hc
    rw [outlet_eq htype.symm hcreated.symm, List.mem_append, List.mem_singleton] at hc
    rcases hc with hc | rfl
    · exact (hvenc c hc).2
    · exact hbind.2
  have htype_ne : eType ch.venc ≠ none := by
    rw [← htype]
    exact Option.some_ne_none _
  have hneeds : ∀ c ∈ ch.intake ++ ch.outlet sdk, sdk.ret c = 0 := fun c hc =>
    (List.mem_append.mp hc).elim (hgives.ret_intake c) (hout c)
  by_cases hmode : NoRegroup ch.vpe
  · rcases hgives.cases with ⟨-, hsize⟩ | ⟨-, -, hnot, -⟩
    · refine ⟨hgives.pad_eq, rfl, hcreated.symm, by rw [fedSize, if_pos hmode, hsize],
        ⟨hgives.takesIn, hchn.symm, htype_ne, fun hnot => absurd hmode hnot⟩, ?_⟩
      unfold needs
      rwa [if_pos hmode, List.append_nil]
    · exact absurd hmode hnot
  · rcases hgives.cases with ⟨hport, -⟩ | ⟨-, hsize, -, hre, hdetour⟩
    · -- the encoder is bound to the DIVP
      unfold vpeSrc at hport
      rw [if_neg hmode] at hport
      cases congrArg ChnPort.eModId hport
    · refine ⟨hgives.pad_eq, rfl, hcreated.symm, by rw [fedSize, if_neg hmode, hsize],
        ⟨hgives.takesIn, hchn.symm, htype_ne, fun _ => hre⟩, fun c hc => ?_⟩
      unfold needs at hc
      rw [if_neg hmode] at hc
      exact (List.mem_append.mp hc).elim (hneeds c) (hdetour c)

theorem fed_of_feeds (h : Feeds sdk ch pad chn created fed) :
    (ch.board sdk).Fed sdk pad chn created fed := by
  obtain ⟨rfl, rfl, hcreated, hfed, hagrees, hneeds⟩ := h
  obtain ⟨type, htype⟩ := Option.ne_none_iff_exists'.mp hagrees.type_ne
  refine ⟨⟨type, has_vencCalls hneeds htype hcreated⟩, vpeSrc ch.vpe, ?_,
    done_vpeLinkTo hneeds hagrees.vencChn_eq⟩
  unfold fedSize at hfed
  unfold vpeSrc
  split_ifs at hfed ⊢ with hmode
  · rw [hagrees.vpeChn_eq]
    exact delivers_vpe hneeds hagrees.toTakesIn hfed
  · exact delivers_divp hneeds hagrees.toTakesIn hmode (hagrees.regroups hmode) hfed

/-- Sizes of the same height are the same. -/
theorem resolution_eq_of_height {m n : String} {a b : Size} (ha : resolution m = some a)
    (hb : resolution n = some b) (h : a.2 = b.2) : a = b := by
  have hsizes : ∀ {name : String} {size : Size}, resolution name = some size →
      size = (3840, 2160) ∨ size = (1920, 1080) ∨ size = (1280, 720) := by
    intro name size hsize
    unfold resolution at hsize
    split_ifs at hsize with h4k hfhd hhd
    · exact Or.inl (Option.some.inj hsize).symm
    · exact Or.inr (Or.inl (Option.some.inj hsize).symm)
    · exact Or.inr (Or.inr (Option.some.inj hsize).symm)
  rcases hsizes ha with rfl | rfl | rfl <;> rcases hsizes hb with rfl | rfl | rfl <;>
    first | rfl | exact absurd h (by decide)

/-- Pictures that are regrouped get to an encoder in its own size only if nothing scales them: the
DIVP takes the height of the VPE, and the composer makes one size alone. -/
theorem size_of_regrouped {size : Size} (h : Feeds sdk ch pad chn size size)
    (hmode : ¬ NoRegroup ch.vpe) : size = viSize ∧
      ∃ width, scaleResolution ch.vpe = some width ∧ width.1 = Vif.viW := by
  have hvpe := (h.agrees.regroups hmode).vpe_size
  have hfed := h.fed_eq
  unfold fedSize divpResolution at hfed
  rw [if_neg hmode] at hfed
  obtain ⟨scale, hscale, hfed⟩ := Option.bind_eq_some_iff.mp hfed
  obtain ⟨vpe, hvpe', hpure⟩ := Option.bind_eq_some_iff.mp hfed
  obtain rfl := Option.some.inj hpure
  obtain rfl := Option.some.inj (hvpe.symm.trans hvpe')
  have hsize : (scale.1, viSize.2) = viSize := resolution_eq_of_height h.created_eq hvpe rfl
  exact ⟨hsize, scale, hscale, congrArg Prod.fst hsize⟩

end Channel

end Mvr.Ssc339g
