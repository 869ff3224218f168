import Mvr.SampleCommVenc.Basic
import Mvr.VEncHi3531DV100.Equiv
import Mvr.Player.Equiv.RateStep

/-!
# What the encoder thread does in every interleaving

`Accounted` says that the thread holds what its phase says, each array and stream given back once,
and that the packs it has pushed are those it has fetched up to where it is, in their order:
`accounted_of_run`.  `Registered` says that the elements own their handles, so that both look-ups of
a pack find the owner of the channel, or none: `pack_iff_of_run`.
-/

namespace Mvr.SampleCommVenc

open Hi3531dv100Lib (VencFrameRate)
open Encoders (slot)

/-! ### Inversion -/

namespace System

/-- The loop is left, nothing is fetched, the array is freed again, or a frame is fetched. -/
theorem fetch_cases (s : System) (o : Fetch) :
    s.fetch o = { s with phase := .left } ∨ s.fetch o = s ∨
      (∃ pstPack, s.fetch o = (s.call (.malloc pstPack)).call (.free pstPack)) ∨
      ∃ pstPack, s.fetch o =
        { (s.call (.malloc pstPack)).call (.getStream o.stStream o.packs) with
          phase := .frame pstPack o.stStream o.packs } := by
  unfold fetch
  by_cases hstart : ¬ o.bThreadStart
  · exact Or.inl (if_pos hstart)
  rw [if_neg hstart]
  by_cases hselect : o.select < 0
  · exact Or.inl (if_pos hselect)
  rw [if_neg hselect]
  by_cases hready : o.select = 0 ∨ ¬ o.fdIsSet
  · exact Or.inr (Or.inl (if_pos hready))
  rw [if_neg hready]
  by_cases hpacks : o.query ≠ 0 ∨ o.u32CurPacks = 0
  · exact Or.inr (Or.inl (if_pos hpacks))
  rw [if_neg hpacks]
  cases o.malloc with
  | none => exact Or.inr (Or.inl rfl)
  | some pstPack =>
    right
    right
    by_cases hget : o.getStream ≠ 0
    · exact Or.inl ⟨pstPack, if_pos hget⟩
    · exact Or.inr ⟨pstPack, if_neg hget⟩

/-- The processor finds the element in the slot of the channel. -/
theorem h264Processor_eq_ok_iff {s s' : System} {vencChn : Int32} {stStream : ℕ} {data : Buffer} :
    s.h264Processor vencChn stStream data = .ok s' ↔
      ∃ venc, slot s.encoders.arr vencChn = some venc ∧ s.encoders.memory venc ≠ none ∧
        s' = s.call (.pushNext venc stStream data) := by
  unfold h264Processor
  constructor
  · intro h
    obtain ⟨entry, hget, h⟩ := Checked.bind_eq_ok.mp h
    have hhandle : Encoders.IsHandle vencChn := (Checked.get_isOk_iff ..).mp ⟨_, hget⟩
    rw [Encoders.get_eq_slot _ hhandle] at hget
    cases hget
    cases hslot : slot s.encoders.arr vencChn with
    | none =>
      rw [hslot] at h
      cases h
    | some venc =>
      rw [hslot] at h
      obtain ⟨v, hderef, h⟩ := Checked.bind_eq_ok.mp h
      cases h
      refine ⟨venc, rfl, fun hnone => ?_, rfl⟩
      rw [Encoders.memory_of_deref hderef] at hnone
      cases hnone
  · rintro ⟨venc, hslot, hlive, rfl⟩
    obtain ⟨v, hv⟩ := Option.ne_none_iff_exists'.mp hlive
    rw [Encoders.get_eq_slot _ (Encoders.isHandle_of_slot _ hslot), Checked.ok_bind, hslot]
    dsimp only
    rw [Encoders.deref_eq_ok hv]
    rfl

/-- The rate is that of the element in the slot of the channel, and is to be set where it
differs. -/
theorem readFrameRate_eq_ok_iff {s : System} {vencChn : Int32} {o : RateOutcome} {fr : Int32}
    {set : Option VencFrameRate} :
    s.readFrameRate vencChn o = .ok (fr, set) ↔
      s.encoders.getFramerateFromVenc vencChn = .ok fr ∧
        set = if fr ≠ (s.getFrameRate o).s32DstFrmRate then
          some { s.getFrameRate o with s32DstFrmRate := fr } else none := by
  unfold readFrameRate
  rw [Checked.bind_eq_ok]
  constructor
  · rintro ⟨fr', hfr, h⟩
    split_ifs at h with hne
    · obtain ⟨rfl, rfl⟩ := Prod.mk.inj (Except.ok.inj h)
      exact ⟨hfr, (if_pos hne).symm⟩
    · obtain ⟨rfl, rfl⟩ := Prod.mk.inj (Except.ok.inj h)
      exact ⟨hfr, (if_neg hne).symm⟩
  · rintro ⟨hfr, rfl⟩
    refine ⟨fr, hfr, ?_⟩
    split_ifs
    · rfl
    · rfl

/-- The call is made, and changes at most the rate of the encoder. -/
theorem setFrameRate_eq (s : System) (stFrameRate : VencFrameRate) (ret : Int32) :
    s.setFrameRate stFrameRate ret = { s.call (.setFrameRate stFrameRate) with
      stFrameRate := if ret = 0 then stFrameRate else s.stFrameRate } := by
  unfold setFrameRate
  dsimp only
  split_ifs
  · rfl
  · rfl

end System

/-! ### The ledger -/

/-- The thread holds what its phase says, and has pushed the packs it has fetched, but for the rest
of the frame. -/
structure Accounted (s : System) : Prop where
  held : Ledger.replay [] (s.calls.flatMap Call.events) = some s.phase.held
  pushed : s.calls.filterMap Call.pushed ++ s.phase.rest.map VencPack.data =
    (s.calls.flatMap Call.fetched).map VencPack.data

namespace Accounted

variable {s : System}

/-- A fetch borrows an array and a stream, or gives back what it has borrowed. -/
theorem fetch (h : Accounted s) (o : Fetch) (hphase : s.phase = .waiting) :
    Accounted (s.fetch o) := by
  have hheld := h.held
  have hpushed := h.pushed
  rw [hphase] at hheld hpushed
  rcases s.fetch_cases o with heq | heq | ⟨pstPack, heq⟩ | ⟨pstPack, heq⟩
  · rw [heq]
    exact ⟨hheld, hpushed⟩
  · rw [heq]
    exact h
  · rw [heq]
    constructor
    · dsimp only [System.call]
      rw [hphase, List.flatMap_append, List.flatMap_append, Ledger.replay_append,
        Ledger.replay_append, hheld]
      simp [Phase.held, Call.events, Ledger.post]
    · dsimp only [System.call]
      rw [hphase]
      simpa [List.filterMap_cons, Call.pushed, Call.fetched] using hpushed
  · rw [heq]
    constructor
    · dsimp only [System.call]
      rw [List.flatMap_append, List.flatMap_append, Ledger.replay_append, Ledger.replay_append,
        hheld]
      simp [Phase.held, Call.events, Ledger.post]
    · simp only [Phase.rest, List.map_nil, List.append_nil] at hpushed
      simp [System.call, Call.pushed, Call.fetched, Phase.rest, hpushed]

/-- A pack leaves the rest of the frame when it is pushed. -/
theorem push (h : Accounted s) {s' : System} {vencChn : Int32} {pstPack : Ptr} {stStream : ℕ}
    {pk : VencPack} {rest : List VencPack} (hphase : s.phase = .frame pstPack stStream (pk :: rest))
    (hpush : s.h264Processor vencChn stStream pk.data = .ok s') :
    Accounted { s' with phase := .pushed pstPack stStream rest } := by
  have hheld := h.held
  have hpushed := h.pushed
  rw [hphase] at hheld hpushed
  obtain ⟨venc, -, -, rfl⟩ := System.h264Processor_eq_ok_iff.mp hpush
  constructor
  · dsimp only [System.call]
    rw [List.flatMap_append, Ledger.replay_append, hheld]
    simp [Phase.held, Call.events, Ledger.post]
  · dsimp only [System.call]
    rw [List.filterMap_append, List.flatMap_append]
    simpa [Call.pushed, Call.fetched, Phase.rest] using hpushed

/-- Another phase of the same frame. -/
theorem congr (h : Accounted s) {phase : Phase} (hheld : phase.held = s.phase.held)
    (hrest : phase.rest = s.phase.rest) : Accounted { s with phase := phase } := by
  constructor
  · dsimp only
    rw [hheld]
    exact h.held
  · dsimp only
    rw [hrest]
    exact h.pushed

/-- Setting the frame rate is no event, and pushes and fetches nothing. -/
theorem setFrameRate (h : Accounted s) (stFrameRate : VencFrameRate) (ret : Int32) :
    Accounted (s.setFrameRate stFrameRate ret) := by
  rw [System.setFrameRate_eq]
  constructor
  · dsimp only [System.call]
    rw [List.flatMap_append, Ledger.replay_append, h.held]
    rfl
  · simpa [System.call, List.filterMap_cons, Call.pushed, Call.fetched] using h.pushed

/-- The end of the loop gives everything back. -/
theorem release (h : Accounted s) {pstPack : Ptr} {stStream : ℕ}
    (hphase : s.phase = .frame pstPack stStream []) : Accounted (s.release pstPack stStream) := by
  have hheld := h.held
  have hpushed := h.pushed
  rw [hphase] at hheld hpushed
  constructor
  · dsimp only [System.release, System.call]
    rw [List.flatMap_append, List.flatMap_append, Ledger.replay_append, Ledger.replay_append,
      hheld]
    simp [Phase.held, Call.events, Ledger.post]
  · simpa [System.release, System.call, List.filterMap_cons, Call.pushed, Call.fetched,
      Phase.rest] using hpushed

end Accounted

/-- **Every pack is accounted for**: in every interleaving the thread holds the array and the stream
of its frame and no other, each one given back once, pushes every pack of a frame while it holds the
stream, and has pushed all the packs it fetched, in their order, up to the one it is at. -/
theorem accounted_of_run (vencChn : Int32) {s₀ s : System} {tr : List Event}
    (hcalls : s₀.calls = []) (hphase : s₀.phase = .waiting) (h : Run (Step vencChn) s₀ tr s) :
    Accounted s := by
  refine h.stateInvariant Accounted ?_ fun s l s' hs hstep => ?_
  · constructor
    · rw [hcalls, hphase]
      rfl
    · rw [hcalls, hphase]
      rfl
  · cases hstep with
    | fetch o hphase => exact hs.fetch o hphase
    | push hphase hpush => exact hs.push hphase hpush
    | keepFrameRate o hphase => exact hs.congr (by rw [hphase]; rfl) (by rw [hphase]; rfl)
    | changeFrameRate o hphase => exact hs.congr (by rw [hphase]; rfl) (by rw [hphase]; rfl)
    | setFrameRate ret hphase =>
      refine (hs.setFrameRate _ ret).congr ?_ ?_
      · rw [System.setFrameRate_eq]
        dsimp only [System.call]
        rw [hphase]
        rfl
      · rw [System.setFrameRate_eq]
        dsimp only [System.call]
        rw [hphase]
        rfl
    | release hphase => exact hs.release hphase
    | maxPendingChanged => exact ⟨hs.held, hs.pushed⟩
    | encoder => exact ⟨hs.held, hs.pushed⟩

/-- The first encoder, started at the rate of its element. -/
def startedEncoder : System where
  encoders := Encoders.firstEncoder
  stFrameRate := ⟨60, 15⟩
  phase := .waiting
  calls := []

/-- Everything succeeds, and the frame has two packs. -/
def twoPacks : Fetch where
  bThreadStart := true
  select := 1
  fdIsSet := true
  query := 0
  u32CurPacks := 2
  malloc := some 100
  getStream := 0
  stStream := 7
  packs := [⟨[0, 1, 2], 1, 3⟩, ⟨[3, 4], 0, 2⟩]

/-- `HI_MPI_VENC_GetFrameRate` succeeds. -/
def rateOk : RateOutcome := ⟨0, ⟨0, 0⟩⟩

/-- After the first pack is compared the controller sees nine pending packets, and the second pack
sets the lower rate. -/
def twoPacksRun : List Event :=
  [.fetch twoPacks, .push, .readFrameRate rateOk 15, .maxPendingChanged 1 false none 9, .push,
    .readFrameRate rateOk 13, .setFrameRate 0, .release]

theorem run_twoPacks : ∃ s, Run (Step 0) startedEncoder twoPacksRun s :=
  ⟨_, (((((((Run.nil.snoc (.fetch twoPacks rfl)).snoc (.push rfl rfl)).snoc
    (.keepFrameRate rateOk rfl rfl)).snoc (.maxPendingChanged false none 9 rfl rfl)).snoc
    (.push rfl rfl)).snoc (.changeFrameRate rateOk rfl rfl)).snoc (.setFrameRate 0 rfl)).snoc
    (.release rfl)⟩

theorem accounted_twoPacks :
    ∃ s, Run (Step 0) startedEncoder twoPacksRun s ∧ Accounted s := by
  obtain ⟨s, hrun⟩ := run_twoPacks
  exact ⟨s, hrun, accounted_of_run 0 rfl rfl hrun⟩

/-! ### The owner of the channel -/

/-- The controller writes the frame rate of the element alone, and writes one within its bounds. -/
theorem setAttr_of_maxPendingChanged {isVps : Bool} {rtspServer0 : Option LiveRtspServer}
    {elem elem' : Element} {eventPara : UInt32}
    (h : Player.wsCliMaxPendingChangedHandler isVps rtspServer0 elem eventPara = .ok elem') :
    ∃ fr : Int32, elem' = elem.setAttr "VENC-FRAMERATE" fr ∧ Player.IsFrameRate fr := by
  unfold Player.wsCliMaxPendingChangedHandler at h
  obtain ⟨frameRate, -, h⟩ := Checked.bind_eq_ok.mp h
  have hclamp := Player.isFrameRate_clampFrameRate
    (Player.steerFrameRate eventPara.toInt32 frameRate)
  cases isVps with
  | true => exact ⟨_, (Except.ok.inj h).symm, hclamp⟩
  | false =>
    cases rtspServer0 with
    | none => exact ⟨_, (Except.ok.inj h).symm, hclamp⟩
    | some rtsp =>
      obtain ⟨isConnected, -, h⟩ := Checked.bind_eq_ok.mp h
      cases isConnected with
      | true => exact ⟨_, (Except.ok.inj h).symm, Player.isFrameRate_minFrameRate⟩
      | false => exact ⟨_, (Except.ok.inj h).symm, hclamp⟩

/-- A step in which the other users of the encoders keep their registry consistent. -/
def KeepingStep (vencChn : Int32) (s : System) (l : Event) (s' : System) : Prop :=
  Step vencChn s l s' ∧ ∀ e, l = .encoder e → s.encoders.Keeps e

/-- The registry of the encoders is consistent, and their attributes can be read. -/
structure Registered (s : System) : Prop where
  consistent : s.encoders.Consistent
  allReadable : s.encoders.AllReadable

theorem Registered.step {vencChn : Int32} {s s' : System} {l : Event} (h : Registered s)
    (hstep : KeepingStep vencChn s l s') : Registered s' := by
  obtain ⟨hstep, hkeeps⟩ := hstep
  cases hstep with
  | fetch o =>
    rcases s.fetch_cases o with heq | heq | ⟨pstPack, heq⟩ | ⟨pstPack, heq⟩
    all_goals
      rw [heq]
      exact ⟨h.consistent, h.allReadable⟩
  | push hphase hpush =>
    obtain ⟨_, -, -, rfl⟩ := System.h264Processor_eq_ok_iff.mp hpush
    exact ⟨h.consistent, h.allReadable⟩
  | keepFrameRate => exact ⟨h.consistent, h.allReadable⟩
  | changeFrameRate => exact ⟨h.consistent, h.allReadable⟩
  | setFrameRate ret =>
    rw [System.setFrameRate_eq]
    exact ⟨h.consistent, h.allReadable⟩
  | release => exact ⟨h.consistent, h.allReadable⟩
  | @maxPendingChanged this venc elem isVps rtspServer0 eventPara hvenc hcall =>
    obtain ⟨fr, rfl, -⟩ := setAttr_of_maxPendingChanged hcall
    constructor
    · -- the handle of the element stays
      have hinverse := Encoders.consistent_iff.mp h.consistent
      apply Encoders.consistent_iff.mpr
      rw [Encoders.handleOf_update]
      have hsame : s.encoders.handleOf this = some venc.mHandle :=
        Encoders.handleOf_eq_some_iff.mpr ⟨venc, hvenc, rfl⟩
      rwa [Option.map_some, ← hsame, Function.update_eq_self]
    · refine h.allReadable.update s.encoders.arr this fun venc' hvenc' => ?_
      rw [← Option.some.inj hvenc']
      exact (h.allReadable this venc hvenc).setAttr "VENC-FRAMERATE" fr
  | encoder e hlegal hafter =>
    have hkept := (Encoders.after_iff h.consistent h.allReadable hlegal).mpr (hkeeps e rfl)
    rw [hafter, Encoders.endsConsistent_ok_iff] at hkept
    exact ⟨hkept, Encoders.allReadable_after h.allReadable hafter⟩

/-- An element owns the channel. -/
def Owned (s : System) (vencChn : Int32) : Prop :=
  ∃ this venc, s.encoders.memory this = some venc ∧ venc.mHandle = vencChn

/-- The pack is pushed as long as an element owns the channel; without one the null pointer of its
slot is dereferenced. -/
theorem Registered.push_iff {s : System} (h : Registered s) {vencChn : Int32} {pstPack : Ptr}
    {stStream : ℕ} {pk : VencPack} {rest : List VencPack}
    (hphase : s.phase = .frame pstPack stStream (pk :: rest)) :
    (∃ s', Step vencChn s .push s') ↔ Owned s vencChn := by
  constructor
  · rintro ⟨s', hstep⟩
    cases hstep with
    | push _ hpush =>
      obtain ⟨this, hslot, -, -⟩ := System.h264Processor_eq_ok_iff.mp hpush
      exact ⟨this, h.consistent.owner _ _ hslot⟩
  · rintro ⟨this, venc, hvenc, rfl⟩
    obtain ⟨-, hslot⟩ := h.consistent.slot_mHandle this venc hvenc
    have hlive : s.encoders.memory this ≠ none := by
      rw [hvenc]
      exact Option.some_ne_none _
    exact ⟨_, .push hphase (System.h264Processor_eq_ok_iff.mpr ⟨this, hslot, hlive, rfl⟩)⟩

/-- The same for the second look-up of the pack. -/
theorem Registered.readFrameRate_iff {s : System} (h : Registered s) {vencChn : Int32}
    {pstPack : Ptr} {stStream : ℕ} {rest : List VencPack}
    (hphase : s.phase = .pushed pstPack stStream rest) (o : RateOutcome) :
    (∃ fr s', Step vencChn s (.readFrameRate o fr) s') ↔ Owned s vencChn := by
  constructor
  · rintro ⟨fr, s', hstep⟩
    have hfr : s.encoders.getFramerateFromVenc vencChn = .ok fr := by
      cases hstep with
      | keepFrameRate _ _ hread => exact (System.readFrameRate_eq_ok_iff.mp hread).1
      | changeFrameRate _ _ hread => exact (System.readFrameRate_eq_ok_iff.mp hread).1
    cases hslot : slot s.encoders.arr vencChn with
    | none => exact absurd ⟨fr, hfr⟩ (Encoders.getFramerateFromVenc_of_none hslot)
    | some this => exact ⟨this, h.consistent.owner _ _ hslot⟩
  · rintro ⟨this, venc, hvenc, rfl⟩
    obtain ⟨-, hslot⟩ := h.consistent.slot_mHandle this venc hvenc
    obtain ⟨fr, hfr⟩ := h.allReadable this venc hvenc "VENC-FRAMERATE"
      (by simp [Encoders.numberAttrs]) 15
    have hread : s.readFrameRate venc.mHandle o = .ok (fr, _) :=
      System.readFrameRate_eq_ok_iff.mpr
        ⟨(Encoders.getFramerateFromVenc_eq hslot hvenc).trans hfr, rfl⟩
    split_ifs at hread with hne
    · exact ⟨fr, _, .changeFrameRate o hphase hread⟩
    · exact ⟨fr, _, .keepFrameRate o hphase hread⟩

/-- **The thread outlives its element**: while the other users of the encoders keep the registry
consistent, a pack that is due goes to the element that owns the handle of the channel, and each of
the two look-ups of a pack gets through exactly if there is such an element. -/
theorem pack_iff_of_run (vencChn : Int32) {s₀ s : System} {tr : List Event} (h₀ : Registered s₀)
    (h : Run (KeepingStep vencChn) s₀ tr s) {pstPack : Ptr} {stStream : ℕ}
    {rest : List VencPack} :
    (∀ pk, s.phase = .frame pstPack stStream (pk :: rest) →
      ((∃ s', Step vencChn s .push s') ↔ Owned s vencChn) ∧
      ∀ s', Step vencChn s .push s' → ∃ this venc, s.encoders.memory this = some venc ∧
        venc.mHandle = vencChn ∧ s'.calls = s.calls ++ [.pushNext this stStream pk.data]) ∧
    (s.phase = .pushed pstPack stStream rest → ∀ o,
      ((∃ fr s', Step vencChn s (.readFrameRate o fr) s') ↔ Owned s vencChn)) := by
  have hregistered := h.stateInvariant Registered h₀ fun s l s' hs hstep => hs.step hstep
  refine ⟨fun pk hphase => ⟨hregistered.push_iff hphase, fun s' hstep => ?_⟩,
    fun hphase o => hregistered.readFrameRate_iff hphase o⟩
  cases hstep with
  | push hphase' hpush =>
    rw [hphase] at hphase'
    cases hphase'
    obtain ⟨this, hslot, -, rfl⟩ := System.h264Processor_eq_ok_iff.mp hpush
    obtain ⟨venc, hvenc, hmHandle⟩ := hregistered.consistent.owner _ _ hslot
    exact ⟨this, venc, hvenc, hmHandle, rfl⟩

theorem registered_startedEncoder : Registered startedEncoder := by
  have hkept := (Encoders.after_iff (e := .create 1) Encoders.consistent_init
    (Encoders.allReadable_of_run .nil _ rfl) rfl).mpr ⟨0, by decide, rfl⟩
  refine ⟨Encoders.endsConsistent_ok_iff.mp hkept, ?_⟩
  exact Encoders.allReadable_of_run Encoders.run_firstEncoder _ rfl

theorem pack_iff_twoPacks :
    ∃ s, Run (KeepingStep 0) startedEncoder [.fetch twoPacks] s ∧
      ((∃ s', Step 0 s .push s') ↔ Owned s 0) := by
  have hrun : Run (KeepingStep 0) startedEncoder [.fetch twoPacks]
      (startedEncoder.fetch twoPacks) :=
    Run.nil.snoc ⟨.fetch twoPacks rfl, fun e he => by cases he⟩
  exact ⟨_, hrun, ((pack_iff_of_run 0 registered_startedEncoder hrun).1 _ rfl).1⟩

end Mvr.SampleCommVenc
