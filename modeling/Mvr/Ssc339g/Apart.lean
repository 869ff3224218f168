import Mvr.Ssc339g.Equiv

/-!
# Several channels on a board

The elements know their devices and channels by numbers, so that the channels of a board could get
in each other's way.  They do not if each keeps to numbers of its own: then a sensor feeds an
encoder on the board exactly if it does so on one of its channels by itself, `fed_iff_exists`.

The proof gives every call a `Key`, the one number in it that tells whose call it is.
-/

namespace Mvr.Ssc339g

variable {sdk : Sdk} {b b' : Board} {c : Call}

/-! ### Larger boards -/

theorem Board.Has.mono (h : b.made ⊆ b'.made) {cs : List Call} (hhas : b.Has sdk cs) :
    b'.Has sdk cs := fun c hc => ⟨h (hhas c hc).1, (hhas c hc).2⟩

theorem Board.Delivers.mono (hmade : b.made ⊆ b'.made) (hcopied : b.copied ⊆ b'.copied)
    {pad : UInt32} {p : ChnPort} {size : Size} (h : b.Delivers sdk pad p size) :
    b'.Delivers sdk pad p size := by
  induction h with
  | vpe hvif hbind hvpe => exact .vpe (hvif.mono hmade) ⟨hmade hbind.1, hbind.2⟩ (hvpe.mono hmade)
  | divp hsrc hcopy hcomposes hdivp ih =>
    exact .divp ih (hcopied hcopy) hcomposes (hdivp.mono hmade)

theorem Board.Fed.mono (hmade : b.made ⊆ b'.made) (hcopied : b.copied ⊆ b'.copied)
    {pad chn : UInt32} {created fed : Size} (h : b.Fed sdk pad chn created fed) :
    b'.Fed sdk pad chn created fed := by
  obtain ⟨⟨type, hvenc⟩, src, hsrc, hbind⟩ := h
  exact ⟨⟨type, hvenc.mono hmade⟩, src, hsrc.mono hmade hcopied, hmade hbind.1, hbind.2⟩

/-! ### Whose call it is -/

/-- What a channel has to itself. -/
inductive Key where
  | pad (n : UInt32)
  | dev (n : UInt32)
  | vifChn (n : UInt32)
  | vpeChn (n : UInt32)
  | divp
  | vencChn (n : UInt32)

/-- The key of a port. -/
def ChnPort.key (p : ChnPort) : Key :=
  match p.eModId with
  | .vif => .vifChn p.u32ChnId
  | .vpe => .vpeChn p.u32ChnId
  | .divp => .divp
  | .venc => .vencChn p.u32ChnId

/-- The key of a call; anyone may ask for the device of an encoder. -/
def Call.key : Call → Option Key
  | .snrSetPlaneMode pad | .snrSetRes pad | .snrEnable pad | .snrGetPadInfo pad
  | .snrGetPlaneInfo pad => some (.pad pad)
  | .vifSetDevAttr dev _ | .vifEnableDev dev => some (.dev dev)
  | .vifSetChnPortAttr chn _ _ | .vifEnableChnPort chn _ | .sysSetChnMmaConf _ _ chn =>
    some (.vifChn chn)
  | .vpeSetChannelParam chn | .vpeCreateChannel chn _ | .vpeStartChannel chn
  | .vpeGetPortMode chn _ | .vpeSetPortMode chn _ _ | .vpeEnablePort chn _ => some (.vpeChn chn)
  | .divpCreateChn _ | .divpSetOutputPortAttr _ _ | .divpStartChn _ => some .divp
  | .vencCreateChn chn _ _ | .vencStartRecvPic chn => some (.vencChn chn)
  | .vencGetChnDevid _ => none
  | .sysBindChnPort2 src _ => some src.key
  | .sysSetChnOutputPortDepth p _ _ | .sysGetFd p => some p.key

namespace Channel

/-- The channel has to do with the DIVP. -/
def UsesDivp (ch : Channel) : Prop :=
  ch.vif.getAttrWord "mode" "0" = "regroup" ∨ ¬ NoRegroup ch.vpe

/-- What the elements of a channel claim for themselves. -/
def keys (ch : Channel) : Set Key
  | .pad n => n = eSnrPadId ch.vif
  | .dev n => n = vifDev ch.vif
  | .vifChn n => n = vifChn ch.vif
  | .vpeChn n => n = vifDev ch.vif
  | .divp => ch.UsesDivp
  | .vencChn n => n = vencChn ch.venc

/-- The elements of a channel use the same numbers. -/
structure OwnNumbers (ch : Channel) : Prop where
  vpeChn_eq : vpeChn ch.vpe = vifDev ch.vif
  vencChn_eq : attrNum ch.vpe "vencChn" = vencChn ch.venc

variable {ch : Channel}

theorem key_vpeSrc_mem (h : OwnNumbers ch) : (vpeSrc ch.vpe).key ∈ ch.keys := by
  unfold vpeSrc
  split_ifs with hmode
  · exact h.vpeChn_eq
  · exact Or.inr hmode

theorem key_mem_of_numbers (h : OwnNumbers ch) (hnum : Numbers sdk ch c) {k : Key}
    (hk : c.key = some k) : k ∈ ch.keys := by
  cases c with
  | snrSetPlaneMode | snrSetRes | snrEnable | snrGetPadInfo | snrGetPlaneInfo | vifEnableDev
  | sysSetChnMmaConf | vencStartRecvPic =>
    obtain rfl := Option.some.inj hk
    exact hnum
  | vifSetDevAttr | vifSetChnPortAttr | vifEnableChnPort | vencCreateChn =>
    obtain rfl := Option.some.inj hk
    exact hnum.1
  | vpeSetChannelParam | vpeStartChannel =>
    obtain rfl := Option.some.inj hk
    exact hnum.trans h.vpeChn_eq
  | vpeCreateChannel | vpeGetPortMode | vpeSetPortMode | vpeEnablePort =>
    obtain rfl := Option.some.inj hk
    exact hnum.1.trans h.vpeChn_eq
  | divpCreateChn | divpStartChn =>
    obtain rfl := Option.some.inj hk
    exact Or.inr hnum.2
  | divpSetOutputPortAttr =>
    obtain rfl := Option.some.inj hk
    exact Or.inr hnum.2.2
  | vencGetChnDevid => cases hk
  | sysBindChnPort2 =>
    obtain rfl := Option.some.inj hk
    rcases hnum with ⟨rfl, -⟩ | ⟨rfl, -⟩
    · exact key_vpeSrc_mem h
    · exact Eq.refl (vifChn ch.vif)
  | sysSetChnOutputPortDepth =>
    obtain rfl := Option.some.inj hk
    rcases hnum with rfl | rfl | rfl
    · exact Eq.refl (vifChn ch.vif)
    · exact h.vpeChn_eq
    · exact Eq.refl (vifDev ch.vif)
  | sysGetFd =>
    obtain rfl := Option.some.inj hk
    obtain rfl := hnum
    exact Eq.refl (vifDev ch.vif)

/-- The device of the encoder is asked for when the elements are linked. -/
theorem mem_made_vencGetChnDevid (h : OwnNumbers ch) :
    .vencGetChnDevid (vencChn ch.venc) ∈ (ch.board sdk).made := by
  rw [made_board]
  refine List.mem_append_right _ (List.mem_append_left _ ?_)
  unfold vpeLinkTo
  rw [if_pos ch.venc_class, ← h.vencChn_eq]
  exact List.mem_cons_self

end Channel

/-! ### A board of channels -/

open Channel

/-- What is on the board comes from the channels. -/
structure Board.IsOf (sdk : Sdk) (b : Board) (chs : List Channel) : Prop where
  made_iff : ∀ c, c ∈ b.made ↔ ∃ ch ∈ chs, c ∈ (ch.board sdk).made
  copied_iff : ∀ x, x ∈ b.copied ↔ ∃ ch ∈ chs, x ∈ (ch.board sdk).copied

/-- The channels keep to numbers of their own. -/
structure Apart (chs : List Channel) : Prop where
  own : ∀ ch ∈ chs, OwnNumbers ch
  eq_of_mem : ∀ ch ∈ chs, ∀ ch' ∈ chs, ∀ k ∈ ch.keys, k ∈ ch'.keys → ch = ch'

/-- The elements that a channel is linked to matter by their classes alone. -/
theorem connect_eq (ch : Channel) {vpe' venc' : Element} (rtsp' : Element)
    (hvpe : vpe'.mClassName = "vpe") (hvenc : venc'.mClassName = "venc") :
    connect sdk ch.vif ch.vpe ch.venc vpe' venc' rtsp' =
      connect sdk ch.vif ch.vpe ch.venc ch.vpe ch.venc (Element.new "rtsp-server") := by
  have hvif : vifLinkTo sdk ch.vif vpe' = vifLinkTo sdk ch.vif ch.vpe := by
    unfold vifLinkTo
    rw [if_pos hvpe, if_pos ch.vpe_class]
  have hvpe : vpeLinkTo sdk ch.vpe venc' = vpeLinkTo sdk ch.vpe ch.venc := by
    unfold vpeLinkTo
    rw [if_pos hvenc, if_pos ch.venc_class]
  unfold connect
  rw [linkTo_venc, linkTo_venc, linkTo_vpe, linkTo_vpe, linkTo_vif, linkTo_vif, hvif, hvpe]

/-- Two channels that are started one after the other, and then linked. -/
theorem isOf_two (sdk : Sdk) (ch ch' : Channel) :
    (startElements sdk ch.vif ch.vpe ch.venc ++ startElements sdk ch'.vif ch'.vpe ch'.venc ++
      (connect sdk ch.vif ch.vpe ch.venc ch.vpe ch.venc (Element.new "rtsp-server") ++
        connect sdk ch'.vif ch'.vpe ch'.venc ch'.vpe ch'.venc
          (Element.new "rtsp-server"))).IsOf sdk [ch, ch'] := by
  have hmem : ∀ {α : Type} (l₁ l₂ l₃ l₄ : List α) (x : α),
      x ∈ l₁ ++ l₂ ++ (l₃ ++ l₄) ↔ x ∈ l₁ ++ l₃ ∨ x ∈ l₂ ++ l₄ := by
    intro α l₁ l₂ l₃ l₄ x
    simp only [List.mem_append]
    exact or_or_or_comm
  refine ⟨fun c => (hmem _ _ _ _ c).trans ?_, fun x => (hmem _ _ _ _ x).trans ?_⟩
  · simp only [List.mem_cons, List.not_mem_nil, or_false, exists_eq_or_imp, exists_eq_left]
    rfl
  · simp only [List.mem_cons, List.not_mem_nil, or_false, exists_eq_or_imp, exists_eq_left]
    rfl

theorem Board.IsOf.swap {ch ch' : Channel} (h : b.IsOf sdk [ch, ch']) : b.IsOf sdk [ch', ch] :=
  ⟨fun c => (h.made_iff c).trans (by simp [or_comm]),
    fun x => (h.copied_iff x).trans (by simp [or_comm])⟩

section Family

variable {chs : List Channel} {ch : Channel} (hb : b.IsOf sdk chs) (ha : Apart chs)
include hb ha

/-- A call with the number of a channel is one of its calls. -/
theorem done_of_key_mem (hch : ch ∈ chs) (hc : b.Done sdk c) {k : Key} (hk : c.key = some k)
    (hmem : k ∈ ch.keys) : (ch.board sdk).Done sdk c := by
  obtain ⟨ch', hch', hmade⟩ := (hb.made_iff c).mp hc.1
  have hmem' := key_mem_of_numbers (ha.own ch' hch') (numbers_of_mem_made hmade) hk
  rw [ha.eq_of_mem ch hch ch' hch' k hmem hmem']
  exact ⟨hmade, hc.2⟩

theorem has_of_key_mem (hch : ch ∈ chs) {cs : List Call} (hcs : b.Has sdk cs)
    (hmem : ∀ c ∈ cs, ∃ k ∈ ch.keys, c.key = some k) : (ch.board sdk).Has sdk cs := by
  intro c hc
  obtain ⟨k, hk, hkey⟩ := hmem c hc
  exact done_of_key_mem hb ha hch (hcs c hc) hkey hk

theorem exists_delivers {pad : UInt32} {p : ChnPort} {size : Size}
    (h : b.Delivers sdk pad p size) :
    ∃ ch ∈ chs, (ch.board sdk).Delivers sdk pad p size ∧ p.key ∈ ch.keys := by
  induction h with
  | @vpe dev chn port vpeChn' vpePort size hvif hbind hvpe =>
    -- the channel that the sensor belongs to
    obtain ⟨ch, hch, hmade⟩ := (hb.made_iff _).mp
      (hvif (.vifSetDevAttr dev pad) (by simp [vifCalls])).1
    obtain ⟨rfl, rfl⟩ := numbers_of_mem_made hmade
    have hpad : Key.pad (eSnrPadId ch.vif) ∈ ch.keys := Eq.refl (eSnrPadId ch.vif)
    have hdev : Key.dev (vifDev ch.vif) ∈ ch.keys := Eq.refl (vifDev ch.vif)
    obtain rfl : chn = vifChn ch.vif := by
      obtain ⟨ch', hch', hmade'⟩ := (hb.made_iff _).mp
        (hvif (.vifSetChnPortAttr chn port (eSnrPadId ch.vif)) (by simp [vifCalls])).1
      obtain ⟨hchn, -, hpad'⟩ := numbers_of_mem_made hmade'
      rw [ha.eq_of_mem ch hch ch' hch' _ hpad hpad']
      exact hchn
    have hchn : Key.vifChn (vifChn ch.vif) ∈ ch.keys := Eq.refl (vifChn ch.vif)
    have hvif' := has_of_key_mem hb ha hch hvif (by simp [vifCalls, Call.key, hpad, hdev, hchn])
    have hbind' := done_of_key_mem hb ha hch hbind rfl hchn
    obtain rfl : vpeChn' = vifDev ch.vif :=
      congrArg ChnPort.u32ChnId (dst_of_bound_vif rfl hbind').2
    have hkey : Key.vpeChn (vifDev ch.vif) ∈ ch.keys := Eq.refl (vifDev ch.vif)
    have hvpe' := has_of_key_mem hb ha hch hvpe (by simp [vpeCalls, Call.key, ChnPort.key, hkey])
    exact ⟨ch, hch, .vpe hvif' hbind' hvpe', hkey⟩
  | @divp src chn vifElement size hsrc hcopy hcomposes hdivp ih =>
    obtain ⟨ch, hch, hdelivers, hkey⟩ := ih
    obtain ⟨ch', hch', hcopy'⟩ := (hb.copied_iff _).mp hcopy
    have hcopies := mem_copied_iff.mp hcopy'
    have hsrc' : src = copySrc ch'.vif := congrArg Copying.src hcopies.eq
    -- the thread belongs to the same channel
    obtain rfl : ch = ch' := by
      refine ha.eq_of_mem ch hch ch' hch' _ hkey ?_
      rw [hsrc']
      exact Eq.refl (vifDev ch'.vif)
    have hdivp' : Key.divp ∈ ch.keys := Or.inl hcopies.mode_eq
    exact ⟨ch, hch, .divp hdelivers hcopy' hcomposes
      (has_of_key_mem hb ha hch hdivp (by simp [divpCalls, Call.key, hdivp'])), hdivp'⟩

end Family

/-- **Channels apart**: on a board whose channels keep to numbers of their own, a sensor feeds an
encoder exactly if it does so on one of the channels by itself. -/
theorem fed_iff_exists {chs : List Channel} (hb : b.IsOf sdk chs) (ha : Apart chs)
    {pad chn : UInt32} {created fed : Size} :
    b.Fed sdk pad chn created fed ↔
      ∃ ch ∈ chs, (ch.board sdk).Fed sdk pad chn created fed := by
  constructor
  · rintro ⟨⟨type, hvenc⟩, src, hsrc, hbind⟩
    obtain ⟨ch, hch, hdelivers, hkey⟩ := exists_delivers hb ha hsrc
    have hbind' := done_of_key_mem hb ha hch hbind rfl hkey
    obtain ⟨-, hchn⟩ := src_of_bound hbind'
    rw [(ha.own ch hch).vencChn_eq] at hchn
    have hmem : Key.vencChn chn ∈ ch.keys := hchn
    refine ⟨ch, hch, ⟨type, fun c hc => ?_⟩, src, hdelivers, hbind'⟩
    simp only [vencCalls, List.mem_cons, List.not_mem_nil, or_false] at hc
    rcases hc with rfl | rfl | rfl
    · exact done_of_key_mem hb ha hch (hvenc _ (by simp [vencCalls])) rfl hmem
    · rw [hchn]
      refine ⟨mem_made_vencGetChnDevid (ha.own ch hch), ?_⟩
      rw [← hchn]
      exact (hvenc _ (by simp [vencCalls])).2
    · exact done_of_key_mem hb ha hch (hvenc _ (by simp [vencCalls])) rfl hmem
  · rintro ⟨ch, hch, hfed⟩
    exact hfed.mono (fun c hc => (hb.made_iff c).mpr ⟨ch, hch, hc⟩)
      fun x hx => (hb.copied_iff x).mpr ⟨ch, hch, hx⟩

end Mvr.Ssc339g
