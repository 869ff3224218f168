import Mvr.SampleCommVenc.Equiv

/-!
# The frame rate of the encoder

The controller chooses a frame rate, and the thread of the encoder reads it after each pack and sets
it, each at its own time.  `Steered` relates the three: the thread works towards the rate it has
read last, which is the chosen one unless the controller was called since; the encoder works with
that rate except before the call that sets it; and its rate is set no more often than the controller
was called.
-/

namespace Mvr.SampleCommVenc

open Encoders (slot)
open Hi3531dv100Lib (VencFrameRate)
open Player (HasFrameRate IsFrameRate)

/-- The rate that the thread has read last. -/
def lastRead (fr : Int32) : List Event → Int32 :=
  List.foldl (fun fr l => match l with
    | .readFrameRate _ fr => fr
    | _ => fr) fr

/-- Whether the rate that was read last is the chosen one. -/
def settledAfter (settled : Bool) : Event → Bool
  | .readFrameRate _ _ => true
  | .maxPendingChanged _ _ _ _ => false
  | _ => settled

/-- No call of the controller since the rate was read, or since the start. -/
def Settled (tr : List Event) : Prop := tr.foldl settledAfter true = true

/-- The event is a call of the controller. -/
def Event.isChange : Event → Bool
  | maxPendingChanged _ _ _ _ => true
  | _ => false

/-- The calls for the frame rate succeed, the controller is called for the element of the channel,
and the other users of the encoders leave its frame rate alone. -/
def Event.Regular (this : VEncPtr) : Event → Prop
  | readFrameRate o _ => o.getFrameRate = 0
  | setFrameRate ret => ret = 0
  | maxPendingChanged that _ _ _ => that = this
  | encoder (.setAttr that attrName _) => that ≠ this ∨ attrName ≠ "VENC-FRAMERATE"
  | encoder (.findVencByHandle _) => True
  | encoder _ => False
  | _ => True

/-- The rate that the thread is about to set. -/
def Phase.toSet : Phase → Option VencFrameRate
  | setting _ _ _ stFrameRate => some stFrameRate
  | _ => none

/-- The rate that the encoder works with, or is about to. -/
def System.target (s : System) : VencFrameRate := s.phase.toSet.getD s.stFrameRate

/-- The settings that are due: the one before which the thread is, and the one for a rate that it
has not read yet. -/
def System.due (s : System) (fr : Int32) : ℕ :=
  s.phase.toSet.toList.length + if s.target.s32DstFrmRate = fr then 0 else 1

/-- The encoder follows the element, which has the rate `fr`; it was started with the rate `fr₀`. -/
structure Steered (vencChn : Int32) (this : VEncPtr) (srcFrm fr₀ : Int32) (tr : List Event)
    (s : System) (fr : Int32) : Prop where
  slot_eq : slot s.encoders.arr vencChn = some this
  element : ∃ venc, s.encoders.memory this = some venc ∧ HasFrameRate venc.toElement fr
  chosen : IsFrameRate fr
  read : IsFrameRate (lastRead fr₀ tr)
  isFrameRate : IsFrameRate s.stFrameRate.s32DstFrmRate
  src_eq : s.stFrameRate.s32SrcFrmRate = srcFrm
  target_eq : s.target = ⟨srcFrm, lastRead fr₀ tr⟩
  settled : Settled tr → lastRead fr₀ tr = fr
  sets_le : s.calls.countP Call.isSetFrameRate + s.due fr ≤ tr.countP Event.isChange

theorem settled_append_singleton (tr : List Event) (l : Event) :
    Settled (tr ++ [l]) ↔ settledAfter (tr.foldl settledAfter true) l = true := by
  unfold Settled
  rw [List.foldl_append]
  rfl

theorem lastRead_append_singleton (fr₀ : Int32) (tr : List Event) (l : Event) :
    lastRead fr₀ (tr ++ [l]) = lastRead (lastRead fr₀ tr) [l] := List.foldl_append ..

namespace System

variable {s s' : System} {fr : Int32}

theorem target_congr (hrate : s'.stFrameRate = s.stFrameRate)
    (hset : s'.phase.toSet = s.phase.toSet) : s'.target = s.target := by
  unfold target
  rw [hset, hrate]

theorem due_congr (hrate : s'.stFrameRate = s.stFrameRate)
    (hset : s'.phase.toSet = s.phase.toSet) : s'.due fr = s.due fr := by
  unfold due
  rw [hset, target_congr hrate hset]

theorem due_of_none (hset : s.phase.toSet = none) :
    s.due fr = if s.stFrameRate.s32DstFrmRate = fr then 0 else 1 := by
  unfold due target
  rw [hset]
  exact Nat.zero_add _

theorem due_of_some {stFrameRate : VencFrameRate} (hset : s.phase.toSet = some stFrameRate) :
    s.due fr = 1 + if stFrameRate.s32DstFrmRate = fr then 0 else 1 := by
  unfold due target
  rw [hset]
  rfl

end System

namespace Steered

variable {vencChn : Int32} {this : VEncPtr} {srcFrm fr₀ fr : Int32} {tr : List Event} {s : System}

/-- What changes neither the element nor the encoder, nor what the thread is about to set. -/
theorem congr (h : Steered vencChn this srcFrm fr₀ tr s fr) {s' : System} {l : Event}
    (hencoders : s'.encoders = s.encoders) (hrate : s'.stFrameRate = s.stFrameRate)
    (hset : s'.phase.toSet = s.phase.toSet)
    (hsets : s'.calls.countP Call.isSetFrameRate = s.calls.countP Call.isSetFrameRate)
    (hread : lastRead fr₀ (tr ++ [l]) = lastRead fr₀ tr)
    (hsettled : Settled (tr ++ [l]) → Settled tr) :
    Steered vencChn this srcFrm fr₀ (tr ++ [l]) s' fr where
  slot_eq := hencoders ▸ h.slot_eq
  element := hencoders ▸ h.element
  chosen := h.chosen
  read := hread ▸ h.read
  isFrameRate := hrate ▸ h.isFrameRate
  src_eq := hrate ▸ h.src_eq
  target_eq := by
    rw [System.target_congr hrate hset, hread]
    exact h.target_eq
  settled hnow := hread ▸ h.settled (hsettled hnow)
  sets_le := by
    have hle := h.sets_le
    rw [hsets, System.due_congr hrate hset, List.countP_append]
    omega

theorem fetch (h : Steered vencChn this srcFrm fr₀ tr s fr) (o : Fetch)
    (hphase : s.phase = .waiting) :
    Steered vencChn this srcFrm fr₀ (tr ++ [.fetch o]) (s.fetch o) fr := by
  have hread := lastRead_append_singleton fr₀ tr (.fetch o)
  have hsettled : Settled (tr ++ [.fetch o]) → Settled tr := (settled_append_singleton ..).mp
  rcases s.fetch_cases o with heq | heq | ⟨pstPack, heq⟩ | ⟨pstPack, heq⟩
  · rw [heq]
    exact h.congr rfl rfl (by rw [hphase]; rfl) rfl hread hsettled
  · rw [heq]
    exact h.congr rfl rfl rfl rfl hread hsettled
  · rw [heq]
    exact h.congr rfl rfl rfl (by simp [System.call, Call.isSetFrameRate]) hread hsettled
  · rw [heq]
    exact h.congr rfl rfl (by rw [hphase]; rfl) (by simp [System.call, Call.isSetFrameRate]) hread
      hsettled

theorem push (h : Steered vencChn this srcFrm fr₀ tr s fr) {s' : System} {pstPack : Ptr}
    {stStream : ℕ} {pk : VencPack} {rest : List VencPack}
    (hphase : s.phase = .frame pstPack stStream (pk :: rest))
    (hpush : s.h264Processor vencChn stStream pk.data = .ok s') :
    Steered vencChn this srcFrm fr₀ (tr ++ [.push])
      { s' with phase := .pushed pstPack stStream rest } fr := by
  obtain ⟨venc, -, -, rfl⟩ := System.h264Processor_eq_ok_iff.mp hpush
  exact h.congr rfl rfl (by rw [hphase]; rfl) (by simp [System.call, Call.isSetFrameRate])
    (lastRead_append_singleton ..) (settled_append_singleton ..).mp

/-- The rate that is read is the chosen one. -/
theorem read_eq (h : Steered vencChn this srcFrm fr₀ tr s fr) {o : RateOutcome} {fr' : Int32}
    {set : Option VencFrameRate} (hread : s.readFrameRate vencChn o = .ok (fr', set)) :
    fr' = fr := by
  obtain ⟨venc, hvenc, hrate⟩ := h.element
  have hfr := (System.readFrameRate_eq_ok_iff.mp hread).1
  rw [Encoders.getFramerateFromVenc_eq h.slot_eq hvenc, hrate] at hfr
  exact (Except.ok.inj hfr).symm

theorem lastRead_readFrameRate (fr₀ : Int32) (tr : List Event) (o : RateOutcome) (fr : Int32) :
    lastRead fr₀ (tr ++ [.readFrameRate o fr]) = fr := lastRead_append_singleton ..

/-- The encoder works with the rate already. -/
theorem keepFrameRate (h : Steered vencChn this srcFrm fr₀ tr s fr) {pstPack : Ptr} {stStream : ℕ}
    {rest : List VencPack} {o : RateOutcome} {fr' : Int32} (hget : o.getFrameRate = 0)
    (hphase : s.phase = .pushed pstPack stStream rest)
    (hread : s.readFrameRate vencChn o = .ok (fr', none)) :
    Steered vencChn this srcFrm fr₀ (tr ++ [.readFrameRate o fr'])
      { s with phase := .frame pstPack stStream rest } fr := by
  obtain rfl := h.read_eq hread
  have hgot : s.getFrameRate o = s.stFrameRate := if_pos hget
  have heq : fr' = s.stFrameRate.s32DstFrmRate := by
    have hset := (System.readFrameRate_eq_ok_iff.mp hread).2
    rw [hgot] at hset
    by_contra hne
    rw [if_pos hne] at hset
    cases hset
  have hlast := lastRead_readFrameRate fr₀ tr o fr'
  have hle := h.sets_le
  refine ⟨h.slot_eq, h.element, h.chosen, by rw [hlast]; exact h.chosen, h.isFrameRate, h.src_eq,
    ?_, fun _ => hlast, ?_⟩
  · rw [hlast, heq, ← h.src_eq]
    rfl
  · rw [System.due_of_none (by rw [hphase]; rfl)] at hle
    rw [System.due_of_none rfl, List.countP_append]
    exact Nat.le_add_right_of_le hle

/-- The rate is about to be set, which was due since the controller was called. -/
theorem changeFrameRate (h : Steered vencChn this srcFrm fr₀ tr s fr) {pstPack : Ptr}
    {stStream : ℕ} {rest : List VencPack} {o : RateOutcome} {fr' : Int32}
    {stFrameRate : VencFrameRate} (hget : o.getFrameRate = 0)
    (hphase : s.phase = .pushed pstPack stStream rest)
    (hread : s.readFrameRate vencChn o = .ok (fr', some stFrameRate)) :
    Steered vencChn this srcFrm fr₀ (tr ++ [.readFrameRate o fr'])
      { s with phase := .setting pstPack stStream rest stFrameRate } fr := by
  obtain rfl := h.read_eq hread
  have hgot : s.getFrameRate o = s.stFrameRate := if_pos hget
  have hset := (System.readFrameRate_eq_ok_iff.mp hread).2
  rw [hgot] at hset
  have hne : fr' ≠ s.stFrameRate.s32DstFrmRate := by
    intro heq
    rw [if_neg (not_not_intro heq)] at hset
    cases hset
  rw [if_pos hne] at hset
  obtain rfl := Option.some.inj hset
  have hlast := lastRead_readFrameRate fr₀ tr o fr'
  have hle := h.sets_le
  refine ⟨h.slot_eq, h.element, h.chosen, by rw [hlast]; exact h.chosen, h.isFrameRate, h.src_eq,
    ?_, fun _ => hlast, ?_⟩
  · rw [hlast, ← h.src_eq]
    rfl
  · rw [System.due_of_none (by rw [hphase]; rfl), if_neg (Ne.symm hne)] at hle
    rw [System.due_of_some rfl, if_pos rfl, List.countP_append]
    exact Nat.le_add_right_of_le hle

theorem setFrameRate (h : Steered vencChn this srcFrm fr₀ tr s fr) {pstPack : Ptr} {stStream : ℕ}
    {rest : List VencPack} {stFrameRate : VencFrameRate}
    (hphase : s.phase = .setting pstPack stStream rest stFrameRate) :
    Steered vencChn this srcFrm fr₀ (tr ++ [.setFrameRate 0])
      { s.setFrameRate stFrameRate 0 with phase := .frame pstPack stStream rest } fr := by
  have hread := lastRead_append_singleton fr₀ tr (.setFrameRate 0)
  have hset : s.phase.toSet = some stFrameRate := by
    rw [hphase]
    rfl
  have htarget : stFrameRate = ⟨srcFrm, lastRead fr₀ tr⟩ := by
    rw [← h.target_eq, System.target, hset, Option.getD_some]
  have hle := h.sets_le
  rw [System.due_of_some hset] at hle
  rw [System.setFrameRate_eq, if_pos rfl]
  refine ⟨h.slot_eq, h.element, h.chosen, hread ▸ h.read, ?_, ?_, ?_,
    fun hnow => hread ▸ h.settled ((settled_append_singleton ..).mp hnow), ?_⟩
  · dsimp only
    rw [htarget]
    exact h.read
  · dsimp only
    rw [htarget]
  · rw [hread]
    exact htarget
  · have hone : List.countP Call.isSetFrameRate [.setFrameRate stFrameRate] = 1 := rfl
    rw [System.due_of_none rfl]
    dsimp only [System.call]
    rw [List.countP_append, List.countP_append, hone]
    omega

theorem release (h : Steered vencChn this srcFrm fr₀ tr s fr) {pstPack : Ptr} {stStream : ℕ}
    (hphase : s.phase = .frame pstPack stStream []) :
    Steered vencChn this srcFrm fr₀ (tr ++ [.release]) (s.release pstPack stStream) fr := by
  exact h.congr rfl rfl (by rw [hphase]; rfl)
    (by simp [System.release, System.call, Call.isSetFrameRate]) (lastRead_append_singleton ..)
    (settled_append_singleton ..).mp

/-- A call of the controller changes the rate of the element alone. -/
theorem maxPendingChanged (h : Steered vencChn this srcFrm fr₀ tr s fr) {venc : VEncHi3531DV100}
    {elem : Element} {isVps : Bool} {rtspServer0 : Option LiveRtspServer} {eventPara : UInt32}
    (hcall : Player.wsCliMaxPendingChangedHandler isVps rtspServer0 venc.toElement eventPara =
      .ok elem) :
    ∃ fr', Steered vencChn this srcFrm fr₀
      (tr ++ [.maxPendingChanged this isVps rtspServer0 eventPara])
      { s with
        encoders := ⟨s.encoders.arr,
          Function.update s.encoders.memory this (some { venc with toElement := elem })⟩ } fr' := by
  obtain ⟨fr', rfl, hfr'⟩ := setAttr_of_maxPendingChanged hcall
  have hread := lastRead_append_singleton fr₀ tr
    (.maxPendingChanged this isVps rtspServer0 eventPara)
  have hle := h.sets_le
  refine ⟨fr', h.slot_eq, ⟨_, Function.update_self .., Element.getAttr_setAttr_self ..⟩, hfr',
    hread ▸ h.read, h.isFrameRate, h.src_eq, hread ▸ h.target_eq, fun hnow => ?_, ?_⟩
  · rw [settled_append_singleton] at hnow
    cases hnow
  · -- the call makes up for the setting it asks for
    have hone : List.countP Event.isChange
      [.maxPendingChanged this isVps rtspServer0 eventPara] = 1 := rfl
    have hdue : s.due fr' ≤ s.due fr + 1 := by
      unfold System.due
      split_ifs
      all_goals omega
    rw [List.countP_append, hone]
    exact le_trans (Nat.add_le_add_left hdue _) (Nat.add_le_add_right hle 1)

/-- Another attribute, or the attribute of another element. -/
theorem setAttr (h : Steered vencChn this srcFrm fr₀ tr s fr) {that : VEncPtr} {attrName : String}
    {attrVal : Int32} {encoders : Encoders} (hother : that ≠ this ∨ attrName ≠ "VENC-FRAMERATE")
    (hset : s.encoders.setAttr that attrName attrVal = .ok encoders) (e : Encoders.Event) :
    Steered vencChn this srcFrm fr₀ (tr ++ [.encoder e]) { s with encoders := encoders } fr := by
  obtain ⟨venc, hvenc, hrate⟩ := h.element
  obtain ⟨venc', hderef, hset⟩ := Checked.bind_eq_ok.mp hset
  obtain rfl := Except.ok.inj hset
  have hle := h.sets_le
  have helement : ∃ venc₁, Function.update s.encoders.memory that
      (some { venc' with toElement := venc'.toElement.setAttr attrName attrVal }) this =
        some venc₁ ∧ HasFrameRate venc₁.toElement fr := by
    rcases eq_or_ne this that with rfl | hne
    · have hname : "VENC-FRAMERATE" ≠ attrName := by
        rcases hother with hne | hne
        · exact absurd rfl hne
        · exact hne.symm
      rw [Encoders.memory_of_deref hderef] at hvenc
      obtain rfl := Option.some.inj hvenc
      refine ⟨_, Function.update_self .., ?_⟩
      unfold HasFrameRate
      rw [Element.getAttr_setAttr_of_ne _ hname]
      exact hrate
    · exact ⟨venc, by rw [Function.update_of_ne hne]; exact hvenc, hrate⟩
  have hread := lastRead_append_singleton fr₀ tr (.encoder e)
  refine ⟨h.slot_eq, helement, h.chosen, hread ▸ h.read, h.isFrameRate, h.src_eq,
    hread ▸ h.target_eq, fun hnow => hread ▸ h.settled ((settled_append_singleton ..).mp hnow), ?_⟩
  rw [List.countP_append]
  exact Nat.le_add_right_of_le hle

/-- A regular step keeps the encoder steered. -/
theorem step (h : Steered vencChn this srcFrm fr₀ tr s fr) {l : Event} {s' : System}
    (hregular : l.Regular this) (hstep : Step vencChn s l s') :
    ∃ fr', Steered vencChn this srcFrm fr₀ (tr ++ [l]) s' fr' := by
  cases hstep with
  | fetch o hphase => exact ⟨fr, h.fetch o hphase⟩
  | push hphase hpush => exact ⟨fr, h.push hphase hpush⟩
  | keepFrameRate o hphase hread => exact ⟨fr, h.keepFrameRate hregular hphase hread⟩
  | changeFrameRate o hphase hread => exact ⟨fr, h.changeFrameRate hregular hphase hread⟩
  | setFrameRate ret hphase =>
    obtain rfl : ret = 0 := hregular
    exact ⟨fr, h.setFrameRate hphase⟩
  | release hphase => exact ⟨fr, h.release hphase⟩
  | maxPendingChanged isVps rtspServer0 eventPara hvenc hcall =>
    obtain rfl : _ = this := hregular
    exact h.maxPendingChanged hcall
  | encoder e hlegal hafter =>
    cases e with
    | create => exact absurd hregular not_false
    | destroy => exact absurd hregular not_false
    | startSelf => exact absurd hregular not_false
    | setAttr that attrName attrVal => exact ⟨fr, h.setAttr hregular hafter _⟩
    | findVencByHandle handle =>
      obtain ⟨_, -, hafter⟩ := Checked.bind_eq_ok.mp hafter
      obtain rfl := Except.ok.inj hafter
      exact ⟨fr, h.congr rfl rfl rfl rfl (lastRead_append_singleton ..)
        (settled_append_singleton ..).mp⟩

end Steered

end Mvr.SampleCommVenc
