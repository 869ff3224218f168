import Mvr.VEncHi3531DV100.Basic
import Mvr.Hi3531dv100Lib.Equiv
import Mvr.PartialInverse.Basic
import Mvr.Element.Equiv
import Mvr.CInt.Basic
import Mvr.Lts.Basic

/-!
# The handle registry

The slots and the handles of the elements invert each other (`Consistent`, `consistent_iff`).  An
element that is created takes a free slot as long as there is one; the 33rd takes slot 0 from its
owner.  `startSelf` checks whether the slot it moves to is taken, but not that it exists.  The
destructor leaves its slot as it is.  So the registry stays consistent, and every access to the
table inside it, along exactly the runs of the steps of `Keeps` (`consistent_always_iff`).
-/

namespace Mvr.Encoders

open Hi3531dv100Lib (Call Platform hiFailure hi3531dv100VencStart)

/-! ### Slots -/

/-- The handle has a slot. -/
def IsHandle (handle : Int32) : Prop := 0 ≤ handle.toInt ∧ handle.toInt < 32

instance : DecidablePred IsHandle := fun handle => by
  unfold IsHandle
  infer_instance

/-- The slot of a handle. -/
def slot (arr : Vector (Option VEncPtr) 32) (handle : Int32) : Option VEncPtr :=
  if h : IsHandle handle then arr.get ⟨handle.toInt.toNat, by unfold IsHandle at h; omega⟩ else none

section Slots

variable (arr : Vector (Option VEncPtr) 32) {handle : Int32}

theorem get_eq_slot (h : IsHandle handle) :
    Checked.get arr handle.toInt = .ok (slot arr handle) := by
  unfold slot
  rw [dif_pos h]
  exact dif_pos h

theorem isHandle_of_slot {this : VEncPtr} (h : slot arr handle = some this) : IsHandle handle := by
  by_contra hnot
  rw [slot, dif_neg hnot] at h
  cases h

theorem toNat_inj {handle' : Int32} (h : IsHandle handle) (h' : IsHandle handle')
    (heq : handle.toInt.toNat = handle'.toInt.toNat) : handle = handle' := by
  rw [← Int32.toInt_inj]
  unfold IsHandle at h h'
  omega

theorem slot_set (h : IsHandle handle) (v : Option VEncPtr) :
    slot (arr.setIfInBounds handle.toInt.toNat v) = Function.update (slot arr) handle v := by
  funext handle'
  rcases eq_or_ne handle' handle with rfl | hne
  · rw [Function.update_self, slot, dif_pos h]
    unfold IsHandle at h
    exact Vector.getElem_setIfInBounds_self (by omega)
  · rw [Function.update_of_ne hne]
    unfold slot
    split_ifs with h'
    · exact Vector.getElem_setIfInBounds_ne _ fun heq => hne (toNat_inj h h' heq).symm
    · rfl

theorem set_eq_ok (h : IsHandle handle) (v : Option VEncPtr) :
    ∃ arr', Checked.set arr handle.toInt v = .ok arr' ∧
      slot arr' = Function.update (slot arr) handle v :=
  ⟨_, Checked.set_eq_ok arr h v, slot_set arr h v⟩

theorem isHandle_ofNat {i : ℕ} (h : i < 32) : IsHandle (Int32.ofNat i) := by
  unfold IsHandle
  rw [Int32.toInt_ofNat_of_lt (by omega)]
  omega

theorem slot_ofNat (i : Fin 32) : slot arr (Int32.ofNat i) = arr.get i := by
  unfold slot
  rw [dif_pos (isHandle_ofNat i.isLt)]
  congr
  rw [Int32.toInt_ofNat_of_lt (by omega), Int.toNat_natCast]

end Slots

/-- The constructor takes a free handle, or 0 where none is free. -/
theorem freeHandle_spec (s : Encoders) :
    IsHandle s.freeHandle ∧
      (slot s.arr s.freeHandle = none ∨ ∀ handle, IsHandle handle → slot s.arr handle ≠ none) := by
  unfold freeHandle
  cases hfind : (List.finRange 32).find? fun i => (s.arr.get i).isNone with
  | some i =>
    dsimp only
    refine ⟨isHandle_ofNat i.isLt, Or.inl ?_⟩
    rw [slot_ofNat]
    have hnone : (s.arr.get i).isNone = true :=
      List.find?_some (p := fun i => (s.arr.get i).isNone) hfind
    exact Option.isNone_iff_eq_none.mp hnone
  | none =>
    refine ⟨by decide, Or.inr fun handle hhandle hnone => ?_⟩
    have hlt : handle.toInt.toNat < 32 := by
      unfold IsHandle at hhandle
      omega
    have htaken := List.find?_eq_none.mp hfind ⟨handle.toInt.toNat, hlt⟩ (List.mem_finRange _)
    rw [← CInt.ofNat_toNat hhandle.1, slot_ofNat s.arr ⟨handle.toInt.toNat, hlt⟩] at hnone
    exact htaken (Option.isNone_iff_eq_none.mpr hnone)

/-! ### The invariant -/

/-- The handle of an element that is alive. -/
def handleOf (s : Encoders) (this : VEncPtr) : Option Int32 :=
  (s.memory this).map VEncHi3531DV100.mHandle

/-- Every element that is alive is in the slot of its handle, and every slot that is not null holds
an element that is alive and has its handle. -/
structure Consistent (s : Encoders) : Prop where
  slot_mHandle : ∀ this venc, s.memory this = some venc →
    IsHandle venc.mHandle ∧ slot s.arr venc.mHandle = some this
  owner : ∀ handle this, slot s.arr handle = some this →
    ∃ venc, s.memory this = some venc ∧ venc.mHandle = handle

theorem handleOf_eq_some_iff {s : Encoders} {this : VEncPtr} {handle : Int32} :
    s.handleOf this = some handle ↔ ∃ venc, s.memory this = some venc ∧ venc.mHandle = handle :=
  Option.map_eq_some_iff

theorem consistent_iff {s : Encoders} : Consistent s ↔ Inverse (slot s.arr) s.handleOf := by
  constructor
  · intro h handle this
    rw [handleOf_eq_some_iff]
    refine ⟨h.owner handle this, ?_⟩
    rintro ⟨venc, hvenc, rfl⟩
    exact (h.slot_mHandle this venc hvenc).2
  · intro h
    refine ⟨fun this venc hvenc => ?_, fun handle this hslot => ?_⟩
    · have hslot := (h venc.mHandle this).mpr (handleOf_eq_some_iff.mpr ⟨venc, hvenc, rfl⟩)
      exact ⟨isHandle_of_slot s.arr hslot, hslot⟩
    · exact handleOf_eq_some_iff.mp ((h handle this).mp hslot)

theorem handleOf_update (arr : Vector (Option VEncPtr) 32) (s : Encoders) (this : VEncPtr)
    (v : Option VEncHi3531DV100) :
    handleOf ⟨arr, Function.update s.memory this v⟩ =
      Function.update s.handleOf this (v.map VEncHi3531DV100.mHandle) := by
  funext this'
  unfold handleOf
  dsimp only
  rcases eq_or_ne this' this with rfl | hne
  · rw [Function.update_self, Function.update_self]
  · rw [Function.update_of_ne hne, Function.update_of_ne hne]

/-- The attributes that the start-up reads as numbers. -/
def numberAttrs : List String := ["VENC-CHN", "VENC-SRC-FRAMERATE", "VENC-FRAMERATE"]

/-- The attributes of an element can be read. -/
def Readable (e : Element) : Prop :=
  ∀ name ∈ numberAttrs, ∀ d : Int32, (e.getAttr name d).IsOk

/-- The attributes of all elements can be read. -/
def AllReadable (s : Encoders) : Prop :=
  ∀ this venc, s.memory this = some venc → Readable venc.toElement

theorem readable_new (mHandle : Int32) : Readable (VEncHi3531DV100.new mHandle).toElement := by
  intro name hname d
  unfold VEncHi3531DV100.new
  simp only [numberAttrs, List.mem_cons, List.not_mem_nil, or_false] at hname
  rcases hname with rfl | rfl | rfl
  · exact ⟨mHandle, by simp⟩
  · exact ⟨60, by simp⟩
  · exact ⟨15, by simp⟩

theorem Readable.setAttr {e : Element} (h : Readable e) (attrName : String) (attrVal : Int32) :
    Readable (e.setAttr attrName attrVal) := by
  intro name hname d
  rcases eq_or_ne name attrName with rfl | hne
  · exact ⟨attrVal, Element.getAttr_setAttr_self ..⟩
  · rw [Element.getAttr_setAttr_of_ne _ hne]
    exact h name hname d

/-! ### The operations -/

section Operations

variable {s : Encoders} {this : VEncPtr} {venc : VEncHi3531DV100}

theorem deref_eq_ok (h : s.memory this = some venc) : s.deref this = .ok venc := by
  rw [deref, h]

theorem findVencByHandle_eq_ok (s : Encoders) {handle : Int32} (h : 0 ≤ handle.toInt) :
    s.findVencByHandle handle = .ok (slot s.arr handle) := by
  unfold findVencByHandle
  by_cases hlt : handle.toInt < 32
  · rw [if_pos hlt]
    exact get_eq_slot _ ⟨h, hlt⟩
  · rw [if_neg hlt, slot, dif_neg fun hhandle => hlt hhandle.2]
    rfl

theorem findVencByHandle_of_neg (s : Encoders) {handle : Int32} (h : handle.toInt < 0) :
    s.findVencByHandle handle = .error (.outOfBounds handle.toInt) := by
  unfold findVencByHandle
  rw [if_pos (by omega)]
  exact dif_neg fun hbounds => by omega

/-- The element in a slot is found. -/
theorem findElement_eq_ok {handle : Int32} (hslot : slot s.arr handle = some this)
    (hvenc : s.memory this = some venc) : s.findElement handle = .ok (some venc.toElement) := by
  unfold findElement
  rw [findVencByHandle_eq_ok s (isHandle_of_slot _ hslot).1, Checked.ok_bind, hslot]
  dsimp only
  rw [deref_eq_ok hvenc]
  rfl

/-- The frame rate of a handle is that of the element in its slot. -/
theorem getFramerateFromVenc_eq {vendCh : Int32} (hslot : slot s.arr vendCh = some this)
    (hvenc : s.memory this = some venc) :
    s.getFramerateFromVenc vendCh = venc.toElement.getAttr "VENC-FRAMERATE" (15 : Int32) := by
  unfold getFramerateFromVenc
  rw [findElement_eq_ok hslot hvenc]
  rfl

/-- A handle without an element has no frame rate: the null pointer is dereferenced, or a negative
handle indexes the table. -/
theorem getFramerateFromVenc_of_none {vendCh : Int32} (hslot : slot s.arr vendCh = none) :
    ¬ (s.getFramerateFromVenc vendCh).IsOk := by
  rintro ⟨fr, h⟩
  unfold getFramerateFromVenc findElement at h
  rcases le_or_gt 0 vendCh.toInt with hpos | hneg
  · rw [findVencByHandle_eq_ok s hpos, Checked.ok_bind, hslot] at h
    cases h
  · rw [findVencByHandle_of_neg s hneg] at h
    cases h

/-- The start-up of an element in its slot returns. -/
theorem vencStart_isOk {handle : Int32} (p : Platform) (hslot : slot s.arr handle = some this)
    (hvenc : s.memory this = some venc) (hread : Readable venc.toElement) :
    ∃ result, hi3531dv100VencStart p s.findElement handle = .ok result := by
  obtain ⟨srcFrm, hsrc⟩ := hread "VENC-SRC-FRAMERATE" (by simp [numberAttrs]) 60
  obtain ⟨dstFrm, hdst⟩ := hread "VENC-FRAMERATE" (by simp [numberAttrs]) 15
  exact ⟨_, Hi3531dv100Lib.hi3531dv100VencStart_eq_climb (findElement_eq_ok hslot hvenc) hsrc hdst⟩

theorem create_eq_ok (s : Encoders) (this : VEncPtr) :
    ∃ arr, s.create this =
        .ok ⟨arr, Function.update s.memory this (some (.new s.freeHandle))⟩ ∧
      slot arr = Function.update (slot s.arr) s.freeHandle (some this) := by
  obtain ⟨arr, hset, hslot⟩ := set_eq_ok s.arr (freeHandle_spec s).1 (some this)
  refine ⟨arr, ?_, hslot⟩
  unfold create
  dsimp only
  rw [hset]
  rfl

/-- `moveTo` takes the slot if it is free. -/
theorem moveTo_eq_ok {handle : Int32} (hhandle : IsHandle handle)
    (hfree : slot s.arr handle = none) (hold : IsHandle venc.mHandle) :
    ∃ arr, s.moveTo this venc handle = .ok (some
        ⟨arr, Function.update s.memory this (some { venc with mHandle := handle })⟩) ∧
      slot arr =
        Function.update (Function.update (slot s.arr) venc.mHandle none) handle (some this) := by
  obtain ⟨arr₁, hset₁, hslot₁⟩ := set_eq_ok s.arr hold none
  obtain ⟨arr₂, hset₂, hslot₂⟩ := set_eq_ok arr₁ hhandle (some this)
  refine ⟨arr₂, ?_, by rw [hslot₂, hslot₁]⟩
  unfold moveTo
  rw [get_eq_slot _ hhandle, Checked.ok_bind, if_neg (not_not.mpr hfree), hset₁, Checked.ok_bind,
    hset₂]
  rfl

theorem moveTo_of_taken {handle : Int32} (hhandle : IsHandle handle)
    (htaken : slot s.arr handle ≠ none) : s.moveTo this venc handle = .ok none := by
  unfold moveTo
  rw [get_eq_slot _ hhandle, Checked.ok_bind, if_pos htaken]
  rfl

theorem moveTo_of_not_isHandle {handle : Int32} (hhandle : ¬ IsHandle handle) :
    s.moveTo this venc handle = .error (.outOfBounds handle.toInt) := by
  have hget : Checked.get s.arr handle.toInt = .error (.outOfBounds handle.toInt) :=
    dif_neg hhandle
  unfold moveTo
  rw [hget]
  rfl

section StartSelf

variable {handle : Int32} (p : Platform) (hvenc : s.memory this = some venc)
  (hchn : venc.toElement.getAttr "VENC-CHN" (-1 : Int32) = .ok handle)

include hvenc hchn

/-- `startSelf` of an element that is alive, for the handle its attribute names. -/
theorem startSelf_eq :
    s.startSelf this p =
      if handle = -1 then .ok (s, hiFailure, [])
      else if handle ≠ venc.mHandle then
        s.moveTo this venc handle >>= fun moved => match moved with
          | none => .ok (s, hiFailure, [])
          | some s' => (hi3531dv100VencStart p s'.findElement handle).map fun r => (s', r)
      else (hi3531dv100VencStart p s.findElement venc.mHandle).map fun r => (s, r) := by
  unfold startSelf
  rw [deref_eq_ok hvenc, Checked.ok_bind, hchn, Checked.ok_bind]
  rfl

/-- A target that is taken leaves everything as it is. -/
theorem startSelf_of_taken (hne : handle ≠ -1) (hmoves : handle ≠ venc.mHandle)
    (htaken : slot s.arr handle ≠ none) : s.startSelf this p = .ok (s, hiFailure, []) := by
  obtain ⟨owner, howner⟩ := Option.ne_none_iff_exists'.mp htaken
  rw [startSelf_eq p hvenc hchn, if_neg hne, if_pos hmoves,
    moveTo_of_taken (isHandle_of_slot _ howner) htaken]
  rfl

theorem startSelf_of_not_isHandle (hne : handle ≠ -1) (hmoves : handle ≠ venc.mHandle)
    (hhandle : ¬ IsHandle handle) :
    s.startSelf this p = .error (.outOfBounds handle.toInt) := by
  rw [startSelf_eq p hvenc hchn, if_neg hne, if_pos hmoves, moveTo_of_not_isHandle hhandle]
  rfl

/-- A free target is taken, and the old slot is free. -/
theorem startSelf_of_free (hne : handle ≠ -1) (hmoves : handle ≠ venc.mHandle)
    (hhandle : IsHandle handle) (hfree : slot s.arr handle = none) (hold : IsHandle venc.mHandle)
    (hread : Readable venc.toElement) :
    ∃ arr result, s.startSelf this p = .ok
        (⟨arr, Function.update s.memory this (some { venc with mHandle := handle })⟩, result) ∧
      slot arr =
        Function.update (Function.update (slot s.arr) venc.mHandle none) handle (some this) := by
  obtain ⟨arr, hmove, hslot⟩ := moveTo_eq_ok hhandle hfree hold
  obtain ⟨s', hs'⟩ : ∃ s' : Encoders,
      s' = ⟨arr, Function.update s.memory this (some { venc with mHandle := handle })⟩ := ⟨_, rfl⟩
  have hfound : slot s'.arr handle = some this := by
    rw [hs', hslot]
    exact Function.update_self ..
  have hlive : s'.memory this = some { venc with mHandle := handle } := by
    rw [hs']
    exact Function.update_self ..
  obtain ⟨result, hstart⟩ := vencStart_isOk p hfound hlive hread
  refine ⟨arr, result, ?_, hslot⟩
  rw [← hs'] at hmove ⊢
  rw [startSelf_eq p hvenc hchn, if_neg hne, if_pos hmoves, hmove, Checked.ok_bind]
  dsimp only
  rw [hstart]
  rfl

end StartSelf

end Operations

/-! ### One step -/

/-- The steps that keep the registry consistent. -/
def Keeps (s : Encoders) : Event → Prop
  | .create _ => ∃ handle, IsHandle handle ∧ slot s.arr handle = none
  | .destroy _ => False
  | .setAttr _ _ _ => True
  | .startSelf this _ => ∀ venc handle, s.memory this = some venc →
      venc.toElement.getAttr "VENC-CHN" (-1 : Int32) = .ok handle → handle = -1 ∨ IsHandle handle
  | .findVencByHandle handle => 0 ≤ handle.toInt

/-- The encoders after the computation are consistent. -/
def EndsConsistent (c : Checked Encoders) : Prop := ∃ s, c = .ok s ∧ Consistent s

theorem endsConsistent_ok_iff {s : Encoders} : EndsConsistent (.ok s) ↔ Consistent s := by
  constructor
  · rintro ⟨s', heq, h⟩
    rwa [Except.ok.inj heq]
  · intro h
    exact ⟨s, rfl, h⟩

theorem not_endsConsistent_error (e : Fault) : ¬ EndsConsistent (.error e) := by
  rintro ⟨s, heq, -⟩
  cases heq

section Step

variable {s : Encoders} {this : VEncPtr}

theorem create_iff (h : Consistent s) (hfresh : s.memory this = none) :
    EndsConsistent (s.create this) ↔ ∃ handle, IsHandle handle ∧ slot s.arr handle = none := by
  obtain ⟨arr, hcreate, hslot⟩ := create_eq_ok s this
  obtain ⟨hhandle, hfree | hfull⟩ := freeHandle_spec s
  · refine iff_of_true ?_ ⟨_, hhandle, hfree⟩
    rw [hcreate, endsConsistent_ok_iff, consistent_iff, handleOf_update]
    dsimp only
    rw [hslot]
    refine (consistent_iff.mp h).insert hfree ?_
    rw [handleOf, hfresh]
    rfl
  · -- slot 0 is taken from its owner
    refine iff_of_false ?_ fun ⟨handle, hhandle', hnone⟩ => hfull handle hhandle' hnone
    obtain ⟨owner, howner⟩ := Option.ne_none_iff_exists'.mp (hfull _ hhandle)
    have hne : owner ≠ this := by
      rintro rfl
      obtain ⟨venc, hvenc, -⟩ := h.owner _ _ howner
      rw [hfresh] at hvenc
      cases hvenc
    rw [hcreate, endsConsistent_ok_iff, consistent_iff, handleOf_update]
    dsimp only
    rw [hslot]
    exact (consistent_iff.mp h).not_insert howner hne _

/-- The slot of an element that is destroyed still holds it. -/
theorem not_endsConsistent_destroy (h : Consistent s) (hlive : s.memory this ≠ none) :
    ¬ EndsConsistent (s.destroy this) := by
  obtain ⟨venc, hvenc⟩ := Option.ne_none_iff_exists'.mp hlive
  have hdestroy : s.destroy this = .ok ⟨s.arr, Function.update s.memory this none⟩ := by
    rw [destroy, deref_eq_ok hvenc]
    rfl
  rw [hdestroy, endsConsistent_ok_iff, consistent_iff, handleOf_update]
  exact (consistent_iff.mp h).not_forget (handleOf_eq_some_iff.mpr ⟨venc, hvenc, rfl⟩)

theorem endsConsistent_setAttr (h : Consistent s) (hlive : s.memory this ≠ none)
    (attrName : String) (attrVal : Int32) : EndsConsistent (s.setAttr this attrName attrVal) := by
  obtain ⟨venc, hvenc⟩ := Option.ne_none_iff_exists'.mp hlive
  have hset : s.setAttr this attrName attrVal = .ok ⟨s.arr, Function.update s.memory this
      (some { venc with toElement := venc.toElement.setAttr attrName attrVal })⟩ := by
    rw [setAttr, deref_eq_ok hvenc]
    rfl
  have hsame : Function.update s.handleOf this (some venc.mHandle) = s.handleOf := by
    rw [Function.update_eq_self_iff, handleOf, hvenc]
    rfl
  rw [hset, endsConsistent_ok_iff, consistent_iff, handleOf_update]
  rw [consistent_iff] at h
  exact hsame.symm ▸ h

theorem after_startSelf (s : Encoders) (this : VEncPtr) (p : Platform) :
    s.after (.startSelf this p) = (s.startSelf this p).map Prod.fst := by
  unfold after
  dsimp only
  cases s.startSelf this p <;> rfl

theorem startSelf_iff (h : Consistent s) (hread : AllReadable s) (hlive : s.memory this ≠ none)
    (p : Platform) :
    EndsConsistent (s.after (.startSelf this p)) ↔ Keeps s (.startSelf this p) := by
  obtain ⟨venc, hvenc⟩ := Option.ne_none_iff_exists'.mp hlive
  obtain ⟨handle, hchn⟩ := hread this venc hvenc "VENC-CHN" (by simp [numberAttrs]) (-1)
  obtain ⟨hold, hslot⟩ := h.slot_mHandle this venc hvenc
  have hkeeps : Keeps s (.startSelf this p) ↔ handle = -1 ∨ IsHandle handle := by
    constructor
    · intro hall
      exact hall venc handle hvenc hchn
    · intro hor venc' handle' hvenc' hchn'
      obtain rfl := Option.some.inj (hvenc.symm.trans hvenc')
      obtain rfl := Except.ok.inj (hchn.symm.trans hchn')
      exact hor
  rw [hkeeps, after_startSelf]
  rcases eq_or_ne handle (-1) with rfl | hne
  · rw [startSelf_eq p hvenc hchn, if_pos rfl]
    exact iff_of_true (endsConsistent_ok_iff.mpr h) (Or.inl rfl)
  · rcases eq_or_ne handle venc.mHandle with heq | hmoves
    · obtain ⟨result, hstart⟩ := vencStart_isOk p hslot hvenc (hread this venc hvenc)
      rw [startSelf_eq p hvenc hchn, if_neg hne, if_neg (not_not.mpr heq), hstart]
      exact iff_of_true (endsConsistent_ok_iff.mpr h) (Or.inr (heq ▸ hold))
    · by_cases hhandle : IsHandle handle
      · refine iff_of_true ?_ (Or.inr hhandle)
        cases hfree : slot s.arr handle with
        | some owner =>
          rw [startSelf_of_taken p hvenc hchn hne hmoves (by rw [hfree]; simp)]
          exact endsConsistent_ok_iff.mpr h
        | none =>
          obtain ⟨arr, result, hstart, hslot'⟩ :=
            startSelf_of_free p hvenc hchn hne hmoves hhandle hfree hold (hread this venc hvenc)
          rw [hstart]
          refine endsConsistent_ok_iff.mpr (consistent_iff.mpr ?_)
          rw [handleOf_update]
          dsimp only
          rw [hslot']
          exact (consistent_iff.mp h).move hslot hfree
      · rw [startSelf_of_not_isHandle p hvenc hchn hne hmoves hhandle]
        exact iff_of_false (not_endsConsistent_error _) (not_or.mpr ⟨hne, hhandle⟩)

theorem findVencByHandle_iff (h : Consistent s) (handle : Int32) :
    EndsConsistent (s.after (.findVencByHandle handle)) ↔ 0 ≤ handle.toInt := by
  unfold after
  dsimp only
  by_cases hnonneg : 0 ≤ handle.toInt
  · rw [findVencByHandle_eq_ok s hnonneg]
    exact iff_of_true (endsConsistent_ok_iff.mpr h) hnonneg
  · rw [findVencByHandle_of_neg s (by omega)]
    exact iff_of_false (not_endsConsistent_error _) hnonneg

/-- **One step**: a consistent registry stays consistent in exactly the steps of `Keeps`. -/
theorem after_iff (h : Consistent s) (hread : AllReadable s) {e : Event} (hlegal : s.Legal e) :
    EndsConsistent (s.after e) ↔ Keeps s e := by
  cases e with
  | create this => exact create_iff h hlegal
  | destroy this => exact iff_of_false (not_endsConsistent_destroy h hlegal) not_false
  | setAttr this attrName attrVal =>
    exact iff_of_true (endsConsistent_setAttr h hlegal attrName attrVal) trivial
  | startSelf this p => exact startSelf_iff h hread hlegal p
  | findVencByHandle handle => exact findVencByHandle_iff h handle

end Step

/-! ### Runs -/

/-- An event determines what comes after it. -/
theorem step_deterministic : Run.Deterministic Step := by
  intro c e c₁ c₂ h₁ h₂
  cases h₁
  cases h₂
  rfl

theorem AllReadable.update {s : Encoders} (h : AllReadable s)
    (arr : Vector (Option VEncPtr) 32) (this : VEncPtr) {v : Option VEncHi3531DV100}
    (hv : ∀ venc, v = some venc → Readable venc.toElement) :
    AllReadable ⟨arr, Function.update s.memory this v⟩ := by
  intro this' venc hvenc
  dsimp only at hvenc
  rcases eq_or_ne this' this with rfl | hne
  · rw [Function.update_self] at hvenc
    exact hv venc hvenc
  · rw [Function.update_of_ne hne] at hvenc
    exact h this' venc hvenc

theorem memory_of_deref {s : Encoders} {this : VEncPtr} {venc : VEncHi3531DV100}
    (h : s.deref this = .ok venc) : s.memory this = some venc := by
  unfold deref at h
  cases hvenc : s.memory this with
  | some venc' =>
    rw [hvenc] at h
    rw [Except.ok.inj h]
  | none =>
    rw [hvenc] at h
    cases h

/-- A move changes the handle of the element alone. -/
theorem moveTo_cases {s s' : Encoders} {this : VEncPtr} {venc : VEncHi3531DV100} {handle : Int32}
    (h : s.moveTo this venc handle = .ok (some s')) :
    ∃ arr, s' = ⟨arr, Function.update s.memory this (some { venc with mHandle := handle })⟩ := by
  unfold moveTo at h
  obtain ⟨taken, -, h⟩ := Checked.bind_eq_ok.mp h
  split_ifs at h
  · cases h
  · obtain ⟨arr₁, -, h⟩ := Checked.bind_eq_ok.mp h
    obtain ⟨arr₂, -, h⟩ := Checked.bind_eq_ok.mp h
    exact ⟨arr₂, (Option.some.inj (Except.ok.inj h)).symm⟩

/-- `startSelf` changes the handle of the element alone. -/
theorem startSelf_cases {s s' : Encoders} {this : VEncPtr} {p : Platform}
    {result : Int32 × List Call} (h : s.startSelf this p = .ok (s', result)) :
    s' = s ∨ ∃ venc arr handle, s.memory this = some venc ∧
      s' = ⟨arr, Function.update s.memory this (some { venc with mHandle := handle })⟩ := by
  unfold startSelf at h
  obtain ⟨venc, hderef, h⟩ := Checked.bind_eq_ok.mp h
  obtain ⟨handle, -, h⟩ := Checked.bind_eq_ok.mp h
  split_ifs at h
  · exact Or.inl (congrArg Prod.fst (Except.ok.inj h)).symm
  · obtain ⟨moved, hmove, h⟩ := Checked.bind_eq_ok.mp h
    cases moved with
    | none => exact Or.inl (congrArg Prod.fst (Except.ok.inj h)).symm
    | some s₁ =>
      obtain ⟨arr, rfl⟩ := moveTo_cases hmove
      obtain ⟨_, -, h⟩ := Checked.bind_eq_ok.mp h
      exact Or.inr ⟨venc, arr, handle, memory_of_deref hderef,
        (congrArg Prod.fst (Except.ok.inj h)).symm⟩
  · obtain ⟨_, -, h⟩ := Checked.bind_eq_ok.mp h
    exact Or.inl (congrArg Prod.fst (Except.ok.inj h)).symm

/-- The attributes stay numbers. -/
theorem allReadable_after {s s' : Encoders} (h : AllReadable s) {e : Event}
    (he : s.after e = .ok s') : AllReadable s' := by
  cases e with
  | create this =>
    obtain ⟨arr, hcreate, -⟩ := create_eq_ok s this
    obtain rfl := Except.ok.inj (hcreate.symm.trans he)
    refine h.update arr this fun venc hvenc => ?_
    rw [← Option.some.inj hvenc]
    exact readable_new _
  | destroy this =>
    obtain ⟨venc, -, he⟩ := Checked.bind_eq_ok.mp he
    obtain rfl := Except.ok.inj he
    exact h.update s.arr this fun venc hvenc => by cases hvenc
  | setAttr this attrName attrVal =>
    obtain ⟨venc, hderef, he⟩ := Checked.bind_eq_ok.mp he
    obtain rfl := Except.ok.inj he
    refine h.update s.arr this fun venc' hvenc => ?_
    rw [← Option.some.inj hvenc]
    exact (h this venc (memory_of_deref hderef)).setAttr attrName attrVal
  | startSelf this p =>
    obtain ⟨⟨s₁, result⟩, hstart, he⟩ := Checked.bind_eq_ok.mp he
    obtain rfl := Except.ok.inj he
    rcases startSelf_cases hstart with rfl | ⟨venc, arr, handle, hvenc, rfl⟩
    · exact h
    · refine h.update arr this fun venc' hvenc' => ?_
      rw [← Option.some.inj hvenc']
      exact h this venc hvenc
  | findVencByHandle handle =>
    obtain ⟨_, -, he⟩ := Checked.bind_eq_ok.mp he
    obtain rfl := Except.ok.inj he
    exact h

theorem allReadable_of_run {tr : List Event} {c : Checked Encoders}
    (h : Run Step (.ok init) tr c) : ∀ s, c = .ok s → AllReadable s := by
  refine h.stateInvariant (fun c => ∀ s, c = .ok s → AllReadable s) ?_ ?_
  · rintro s hs this venc hvenc
    obtain rfl := Except.ok.inj hs
    cases hvenc
  · rintro c e c' hc hs s' hs'
    cases hs with
    | mk hlegal => exact allReadable_after (hc _ rfl) hs'

theorem consistent_init : Consistent init := by
  refine ⟨fun this venc hvenc => ?_, fun handle this hslot => ?_⟩
  · cases hvenc
  · unfold slot init at hslot
    split_ifs at hslot
    simp [Vector.get] at hslot

/-- **The handle registry**: along exactly the runs of the steps of `Keeps` the registry stays
consistent, and no access leaves the table.  From a consistent registry `findVencByHandle` returns
the element that owns the handle, or null; and a `startSelf` whose target is taken fails and changes
nothing, from any registry. -/
theorem consistent_always_iff (tr : List Event) (c : Checked Encoders)
    (h : Run Step (.ok init) tr c) :
    (Run.Always Step (.ok init) (fun _ c => EndsConsistent c) tr ↔
      Run.Each Step (.ok init) (fun c e => ∀ s, c = .ok s → Keeps s e) tr) ∧
    (∀ s handle, Consistent s → 0 ≤ handle.toInt →
      ∃ found, s.findVencByHandle handle = .ok found ∧ ∀ this, found = some this ↔
        ∃ venc, s.memory this = some venc ∧ venc.mHandle = handle) ∧
    ∀ (s : Encoders) (this : VEncPtr) (venc : VEncHi3531DV100) (handle : Int32) (p : Platform),
      s.memory this = some venc → venc.toElement.getAttr "VENC-CHN" (-1 : Int32) = .ok handle →
      handle ≠ -1 → handle ≠ venc.mHandle → slot s.arr handle ≠ none →
      s.startSelf this p = .ok (s, hiFailure, []) := by
  refine ⟨?_, fun s handle hs hhandle => ?_, ?_⟩
  · refine Run.always_iff_each step_deterministic (fun _ c => EndsConsistent c)
      (fun c e => ∀ s, c = .ok s → Keeps s e) (endsConsistent_ok_iff.mpr consistent_init) ?_ h
    intro tr c e c' hrun hc hs
    cases hs with
    | @mk s _ hlegal =>
      rw [after_iff (endsConsistent_ok_iff.mp hc) (allReadable_of_run hrun s rfl) hlegal]
      constructor
      · intro hkeeps s' hs'
        rwa [← Except.ok.inj hs']
      · intro hall
        exact hall s rfl
  · refine ⟨_, findVencByHandle_eq_ok s hhandle, fun this => ?_⟩
    rw [← handleOf_eq_some_iff]
    exact consistent_iff.mp hs handle this
  · intro s this venc handle p hvenc hchn hne hmoves htaken
    exact startSelf_of_taken p hvenc hchn hne hmoves htaken

/-- The first encoder. -/
def firstEncoder : Encoders :=
  ⟨(Vector.replicate 32 none).setIfInBounds 0 (some 1),
    Function.update (fun _ => none) 1 (some (.new 0))⟩

theorem run_firstEncoder : Run Step (.ok init) [.create 1] (.ok firstEncoder) :=
  Run.nil.snoc (.mk rfl)

theorem consistent_always_firstEncoder :
    (Run.Always Step (.ok init) (fun _ c => EndsConsistent c) [.create 1] ↔
      Run.Each Step (.ok init) (fun c e => ∀ s, c = .ok s → Keeps s e) [.create 1]) ∧
    ∃ found, init.findVencByHandle 3 = .ok found ∧ ∀ this, found = some this ↔
      ∃ venc, init.memory this = some venc ∧ venc.mHandle = 3 :=
  ⟨(consistent_always_iff _ _ run_firstEncoder).1,
    (consistent_always_iff _ _ run_firstEncoder).2.1 init 3 consistent_init (by decide)⟩

/-- An encoder whose attribute names the handle 40 reads beyond the table.  One that is destroyed
stays in its slot, where it is found. -/
theorem consistent_lost :
    (∀ p, Run Step (.ok init) [.create 1, .setAttr 1 "VENC-CHN" 40, .startSelf 1 p]
      (.error (.outOfBounds 40))) ∧
    ∃ s, Run Step (.ok init) [.create 1, .destroy 1] (.ok s) ∧ s.memory 1 = none ∧
      s.findVencByHandle 0 = .ok (some 1) ∧ ¬ Consistent s := by
  refine ⟨fun p => ?_, _, run_firstEncoder.snoc (.mk (by simp [Legal, firstEncoder])), rfl, rfl,
    fun h => ?_⟩
  · have hset : Run Step (.ok init) [.create 1, .setAttr 1 "VENC-CHN" 40]
        (firstEncoder.after (.setAttr 1 "VENC-CHN" 40)) :=
      run_firstEncoder.snoc (.mk (by simp [Legal, firstEncoder]))
    have hchn : ((VEncHi3531DV100.new 0).toElement.setAttr "VENC-CHN" (40 : Int32)).getAttr
        "VENC-CHN" (-1 : Int32) = .ok 40 := Element.getAttr_setAttr_self ..
    have hstart := hset.snoc (.mk (e := .startSelf 1 p) (by simp [Legal]))
    rwa [after_startSelf, startSelf_of_not_isHandle p rfl hchn (by decide) (by decide)
      (by decide)] at hstart
  · obtain ⟨venc, hvenc, -⟩ := h.owner 0 1 rfl
    cases hvenc

end Mvr.Encoders
