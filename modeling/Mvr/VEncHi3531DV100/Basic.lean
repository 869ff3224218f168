import Mvr.Hi3531dv100Lib.Basic

/-!
# `VEncHi3531DV100`

An encoder element has a handle, and `arr_VEncHi3531DV100` has a slot for each of the 32 handles:
the constructor takes the first free one, and `startSelf` moves the element to the one its attribute
`VENC-CHN` names.  `findVencByHandle` gives the encoder functions the element of a handle.

`Encoders` is the table with the elements that are alive.  The destructor is the one of `Element`,
which does nothing.
-/

namespace Mvr

open Hi3531dv100Lib (Call Platform hiFailure hi3531dv100VencStart)

/-- A `VEncHi3531DV100*`. -/
abbrev VEncPtr := ℕ

/-- An encoder element. -/
structure VEncHi3531DV100 extends Element where
  mHandle : Int32

/-- What the constructor makes of a free handle. -/
def VEncHi3531DV100.new (mHandle : Int32) : VEncHi3531DV100 where
  toElement :=
    (((((Element.new "venc").setAttr "VENC-CHN" mHandle).setAttr "VENC-SRC-FRAMERATE"
      (60 : Int32)).setAttr "VENC-FRAMERATE" (15 : Int32)).setAttr "VENC-MODE"
      "HD1080").setAttr "VENC-PAYLOAD" "h264"
  mHandle := mHandle

/-- `arr_VEncHi3531DV100`, and the elements that are alive. -/
structure Encoders where
  arr : Vector (Option VEncPtr) 32
  memory : VEncPtr → Option VEncHi3531DV100

namespace Encoders

/-- The start of the program. -/
def init : Encoders := ⟨Vector.replicate 32 none, fun _ => none⟩

/-- `*this`. -/
def deref (s : Encoders) (this : VEncPtr) : Checked VEncHi3531DV100 :=
  match s.memory this with
  | some venc => .ok venc
  | none => .error .badPointer

/-- The first free handle. -/
def freeHandle (s : Encoders) : Int32 :=
  match (List.finRange 32).find? fun i => (s.arr.get i).isNone with
  | some i => Int32.ofNat i
  -- the handle keeps the value of `HiElement`
  | none => 0

/-- The constructor. -/
def create (s : Encoders) (this : VEncPtr) : Checked Encoders := do
  let mHandle := s.freeHandle
  let arr ← Checked.set s.arr mHandle.toInt (some this)
  pure ⟨arr, Function.update s.memory this (some (.new mHandle))⟩

/-- The destructor. -/
def destroy (s : Encoders) (this : VEncPtr) : Checked Encoders := do
  let _ ← s.deref this
  pure { s with memory := Function.update s.memory this none }

/-- `this->setAttr`, of a number. -/
def setAttr (s : Encoders) (this : VEncPtr) (attrName : String) (attrVal : Int32) :
    Checked Encoders := do
  let venc ← s.deref this
  let venc := { venc with toElement := venc.toElement.setAttr attrName attrVal }
  pure { s with memory := Function.update s.memory this (some venc) }

/-- `findVencByHandle`. -/
def findVencByHandle (s : Encoders) (handle : Int32) : Checked (Option VEncPtr) :=
  if handle.toInt < 32 then Checked.get s.arr handle.toInt else pure none

/-- The element that `findVencByHandle` finds, dereferenced. -/
def findElement (s : Encoders) (handle : Int32) : Checked (Option Element) := do
  match ← s.findVencByHandle handle with
  | some this => do
    let venc ← s.deref this
    pure (some venc.toElement)
  | none => pure none

/-- `get_framerate_from_venc`. -/
def getFramerateFromVenc (s : Encoders) (vendCh : Int32) : Checked Int32 := do
  match ← s.findElement vendCh with
  | some venc => venc.getAttr "VENC-FRAMERATE" (15 : Int32)
  | none => .error .badPointer

/-- The part of `startSelf` that takes the slot of another handle; `none` if it is taken. -/
def moveTo (s : Encoders) (this : VEncPtr) (venc : VEncHi3531DV100) (handle : Int32) :
    Checked (Option Encoders) := do
  if (← Checked.get s.arr handle.toInt) ≠ none then
    pure none
  else
    let arr ← Checked.set s.arr venc.mHandle.toInt none
    let arr ← Checked.set arr handle.toInt (some this)
    pure (some ⟨arr, Function.update s.memory this (some { venc with mHandle := handle })⟩)

/-- `startSelf`: the code it returns, and the calls of the start-up. -/
def startSelf (s : Encoders) (this : VEncPtr) (p : Platform) :
    Checked (Encoders × Int32 × List Call) := do
  let venc ← s.deref this
  let handle ← venc.toElement.getAttr "VENC-CHN" (-1 : Int32)
  if handle = -1 then
    pure (s, hiFailure, [])
  else if handle ≠ venc.mHandle then
    match ← s.moveTo this venc handle with
    | none => pure (s, hiFailure, [])
    | some s' => do
      let result ← hi3531dv100VencStart p s'.findElement handle
      pure (s', result)
  else
    let result ← hi3531dv100VencStart p s.findElement venc.mHandle
    pure (s, result)

/-! ### Runs -/

/-- What happens to the encoders. -/
inductive Event where
  | create (this : VEncPtr)
  | destroy (this : VEncPtr)
  | setAttr (this : VEncPtr) (attrName : String) (attrVal : Int32)
  | startSelf (this : VEncPtr) (p : Platform)
  | findVencByHandle (handle : Int32)

/-- A new element has an address of its own, and the others are alive. -/
def Legal (s : Encoders) : Event → Prop
  | .create this => s.memory this = none
  | .destroy this => s.memory this ≠ none
  | .setAttr this _ _ => s.memory this ≠ none
  | .startSelf this _ => s.memory this ≠ none
  | .findVencByHandle _ => True

/-- The encoders after an event. -/
def after (s : Encoders) : Event → Checked Encoders
  | .create this => s.create this
  | .destroy this => s.destroy this
  | .setAttr this attrName attrVal => s.setAttr this attrName attrVal
  | .startSelf this p => do
    let (s', _) ← s.startSelf this p
    pure s'
  | .findVencByHandle handle => do
    let _ ← s.findVencByHandle handle
    pure s

/-- A run ends with the first fault. -/
inductive Step : Checked Encoders → Event → Checked Encoders → Prop
  | mk {s : Encoders} {e : Event} (h : s.Legal e) : Step (.ok s) e (s.after e)

end Encoders

end Mvr
