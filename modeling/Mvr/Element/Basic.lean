import Mvr.CText.Basic
import Mvr.Checked.Basic
import Mvr.LastWrite.Basic
import Mathlib.Logic.Function.Basic

/-!
# The attributes of an element

`Element::setAttr` inserts a value into a string stream and keeps the text under the attribute's
name; `Element::getAttr` extracts a value of the wanted type from the text again.  `Streamable` is
what the two templates ask of the type.
-/

namespace Mvr

/-- A type with stream insertion and extraction; `extract` is `none` when the extraction leaves
its variable uninitialised. -/
class Streamable (α : Type) where
  insert : α → String
  extract : String → Option α

instance : Streamable Int32 where
  insert n := CText.formatInt n.toInt
  extract := CText.extractInt

instance : Streamable Bool where
  insert := CText.formatBool
  extract := CText.extractBool

instance : Streamable String where
  insert s := s
  extract s := some (CText.extractWord s)

/-- An element: its class name and the texts of its attributes. -/
structure Element where
  mClassName : String
  mAttrMap : String → Option String

namespace Element

/-- The constructor. -/
def new (className : String) : Element := ⟨className, fun _ => none⟩

variable {α : Type} [Streamable α]

/-- `setAttr`. -/
def setAttr (e : Element) (attrName : String) (attrVal : α) : Element :=
  { e with mAttrMap := Function.update e.mAttrMap attrName (some (Streamable.insert attrVal)) }

/-- `getAttr`. -/
def getAttr (e : Element) (attrName : String) (defaultVal : α) : Checked α :=
  match e.mAttrMap attrName with
  | none => .ok defaultVal
  | some text => match Streamable.extract text with
    | some val => .ok val
    -- the extraction failed, and the variable was never initialised
    | none => .error .unspecified

/-- The overload of `getAttr` for `const char*`, which returns a word. -/
def getAttrWord (e : Element) (attrName defaultVal : String) : String :=
  match e.mAttrMap attrName with
  | none => defaultVal
  | some text => CText.extractWord text

/-! ### Values of the program -/

/-- A value that `setAttr` is called with. -/
inductive AttrVal where
  | int (n : Int32)
  | bool (b : Bool)
  | string (s : String)
  deriving DecidableEq, Repr

/-- The text that is kept for a value. -/
def AttrVal.text : AttrVal → String
  | .int n => Streamable.insert n
  | .bool b => Streamable.insert b
  | .string s => Streamable.insert s

/-- `setAttr` of a value. -/
def setVal (e : Element) (attrName : String) : AttrVal → Element
  | .int n => e.setAttr attrName n
  | .bool b => e.setAttr attrName b
  | .string s => e.setAttr attrName s

/-- An element after a sequence of `setAttr` calls. -/
def setVals (e : Element) (sets : List (String × AttrVal)) : Element :=
  sets.foldl (fun e w => e.setVal w.1 w.2) e

/-- `getAttr` with the type of a value returns the value, whatever the default. -/
def Returns (e : Element) (attrName : String) : AttrVal → Prop
  | .int n => ∀ d : Int32, e.getAttr attrName d = .ok n
  | .bool b => ∀ d : Bool, e.getAttr attrName d = .ok b
  | .string s => ∀ d : String, e.getAttr attrName d = .ok s ∧ e.getAttrWord attrName d = s

/-- `getAttr` of any type returns the default. -/
structure ReturnsDefault (e : Element) (attrName : String) : Prop where
  int : ∀ d : Int32, e.getAttr attrName d = .ok d
  bool : ∀ d : Bool, e.getAttr attrName d = .ok d
  string : ∀ d : String, e.getAttr attrName d = .ok d
  word : ∀ d : String, e.getAttrWord attrName d = d

/-- `getAttr` of any type returns the same from both elements. -/
structure SameAttr (e e' : Element) (attrName : String) : Prop where
  int : ∀ d : Int32, e.getAttr attrName d = e'.getAttr attrName d
  bool : ∀ d : Bool, e.getAttr attrName d = e'.getAttr attrName d
  string : ∀ d : String, e.getAttr attrName d = e'.getAttr attrName d
  word : ∀ d : String, e.getAttrWord attrName d = e'.getAttrWord attrName d

/-- After the calls the attributes read as a map of the values: the last one of each name, the
default for any other name, and no name disturbs another. -/
structure IsMapOf (e : Element) (sets : List (String × AttrVal)) : Prop where
  last : ∀ name v, lastWrite sets name = some v → e.Returns name v
  default : ∀ name, lastWrite sets name = none → e.ReturnsDefault name
  others : ∀ name name' v, name' ≠ name → SameAttr (e.setVal name v) e name'

/-! ### Lemmas -/

@[simp] theorem mAttrMap_setAttr_self (e : Element) (name : String) (v : α) :
    (e.setAttr name v).mAttrMap name = some (Streamable.insert v) := by
  simp [setAttr]

@[simp] theorem mAttrMap_setAttr_of_ne (e : Element) {name name' : String} (h : name' ≠ name)
    (v : α) : (e.setAttr name v).mAttrMap name' = e.mAttrMap name' := by
  simp [setAttr, h]

/-- An element whose attributes are set one after the other holds the last text of each. -/
theorem mAttrMap_foldl_setAttr (ws : List (String × String)) (e : Element) (name : String) :
    (ws.foldl (fun e w => e.setAttr w.1 w.2) e).mAttrMap name =
      (lastWrite ws name).or (e.mAttrMap name) := by
  have hmap : (ws.foldl (fun e w => e.setAttr w.1 w.2) e).mAttrMap =
      ws.foldl (fun (m : String → Option String) w => Function.update m w.1 (some w.2))
        e.mAttrMap := by
    induction ws generalizing e with
    | nil => rfl
    | cons w ws ih => exact ih (e.setAttr w.1 w.2)
  rw [hmap, foldl_update]

theorem setVal_eq (e : Element) (name : String) (v : AttrVal) :
    e.setVal name v = e.setAttr name v.text := by
  cases v <;> rfl

/-- After a sequence of calls an element holds the text of the last value of each name. -/
theorem mAttrMap_setVals (e : Element) (sets : List (String × AttrVal)) (name : String) :
    (e.setVals sets).mAttrMap name =
      ((lastWrite sets name).map AttrVal.text).or (e.mAttrMap name) := by
  have htexts : e.setVals sets =
      (sets.map fun w => (w.1, w.2.text)).foldl (fun e w => e.setAttr w.1 w.2) e := by
    unfold setVals
    rw [List.foldl_map]
    simp only [setVal_eq]
  rw [htexts, mAttrMap_foldl_setAttr, lastWrite_map_value]

end Element

end Mvr
