import Mvr.Element.Basic
import Mvr.CText.Equiv

/-!
# Reading back an attribute

`LawfulStreamable` is what `getAttr` needs to return the value that `setAttr` was given
(`getAttr_setAttr_self`).  Numbers and booleans have it; a text does not, since its extraction stops
at the first white space.  So the attributes are a map of the values they were set to exactly when
no text that was set last has white space in it (`isMapOf_iff`).
-/

namespace Mvr

/-- Extraction undoes insertion. -/
class LawfulStreamable (α : Type) [Streamable α] : Prop where
  extract_insert : ∀ a : α, Streamable.extract (Streamable.insert a) = some a

instance : LawfulStreamable Int32 := ⟨CText.extractInt_formatInt⟩

instance : LawfulStreamable Bool := ⟨CText.extractBool_formatBool⟩

namespace Element

variable {α β : Type} [Streamable α] [Streamable β]

/-- An attribute reads as the value it was set to. -/
@[simp] theorem getAttr_setAttr_self [LawfulStreamable α] (e : Element) (name : String)
    (v d : α) : (e.setAttr name v).getAttr name d = .ok v := by
  rw [getAttr, mAttrMap_setAttr_self]
  dsimp only
  rw [LawfulStreamable.extract_insert]

/-- Setting another attribute does not change it. -/
@[simp] theorem getAttr_setAttr_of_ne (e : Element) {name name' : String} (h : name' ≠ name)
    (v : α) (d : β) : (e.setAttr name v).getAttr name' d = e.getAttr name' d := by
  rw [getAttr, mAttrMap_setAttr_of_ne e h, getAttr]

/-! ### The attributes as a map -/

theorem getAttr_of_mAttrMap {e : Element} {name : String} {v : α}
    (h : e.mAttrMap name = some (Streamable.insert v)) (d : α) :
    e.getAttr name d =
      (Streamable.extract (α := α) (Streamable.insert v)).elim (.error .unspecified) .ok := by
  unfold getAttr
  simp only [h]
  cases Streamable.extract (α := α) (Streamable.insert v) with
  | none => rfl
  | some val => rfl

/-- A value comes back unless it is a text with white space. -/
theorem returns_iff {e : Element} {name : String} {v : AttrVal}
    (h : e.mAttrMap name = some v.text) :
    e.Returns name v ↔ ∀ s, v = .string s → ∀ c ∈ s.toList, CText.isSpace c = false := by
  cases v with
  | int n =>
    refine iff_of_true (fun d => ?_) (by rintro s ⟨⟩)
    rw [getAttr_of_mAttrMap h, LawfulStreamable.extract_insert, Option.elim_some]
  | bool b =>
    refine iff_of_true (fun d => ?_) (by rintro s ⟨⟩)
    rw [getAttr_of_mAttrMap h, LawfulStreamable.extract_insert, Option.elim_some]
  | string s =>
    have hget : ∀ d : String, e.getAttr name d = .ok (CText.extractWord s) := fun d =>
      getAttr_of_mAttrMap h d
    have hword : ∀ d, e.getAttrWord name d = CText.extractWord s := fun d => by
      unfold getAttrWord
      rw [h]
      rfl
    rw [show (∀ s', AttrVal.string s = .string s' → ∀ c ∈ s'.toList, CText.isSpace c = false) ↔
      ∀ c ∈ s.toList, CText.isSpace c = false by simp, ← CText.extractWord_eq_self_iff]
    constructor
    · intro hret
      rw [← hword "", (hret "").2]
    · intro hself d
      rw [hget, hword, hself]
      exact ⟨rfl, rfl⟩

theorem returnsDefault_of_mAttrMap {e : Element} {name : String} (h : e.mAttrMap name = none) :
    e.ReturnsDefault name := by
  constructor <;> intro d <;> simp only [getAttr, getAttrWord, h]

theorem sameAttr_of_mAttrMap {e e' : Element} {name : String}
    (h : e.mAttrMap name = e'.mAttrMap name) : SameAttr e e' name := by
  constructor <;> intro d <;> simp only [getAttr, getAttrWord, h]

/-- The attributes of an element are a map of the values they were set to exactly when no text that
was set last contains white space. -/
theorem isMapOf_iff (className : String) (sets : List (String × AttrVal)) :
    ((new className).setVals sets).IsMapOf sets ↔
      ∀ name s, lastWrite sets name = some (.string s) →
        ∀ c ∈ s.toList, CText.isSpace c = false := by
  have hmap : ∀ name, ((new className).setVals sets).mAttrMap name =
      (lastWrite sets name).map AttrVal.text := fun name => by
    rw [mAttrMap_setVals, new, Option.or_none]
  constructor
  · intro h name s hlast
    have htext := hmap name
    rw [hlast] at htext
    exact (returns_iff htext).mp (h.last name _ hlast) s rfl
  · intro h
    refine ⟨fun name v hlast => ?_, fun name hlast => ?_, fun name name' v hne => ?_⟩
    · have htext := hmap name
      rw [hlast] at htext
      rw [returns_iff htext]
      rintro s rfl
      exact h name s hlast
    · apply returnsDefault_of_mAttrMap
      rw [hmap, hlast]
      rfl
    · apply sameAttr_of_mAttrMap
      rw [setVal_eq, mAttrMap_setAttr_of_ne _ hne]

/-- Of a payload that was set to two words the second is lost. -/
theorem not_isMapOf_two_words :
    ¬ ((new "rtspserver").setVals [("payload", .string "h264 main")]).IsMapOf
      [("payload", .string "h264 main")] := by
  intro h
  have hret := (h.last "payload" (.string "h264 main") (by decide) "").2
  exact absurd hret (by decide)

end Element

end Mvr
