import Mathlib.Logic.Function.Basic

/-!
# Maps from strings to pointers

`PtrMap α` is a `std::map<std::string, T*>`.  An absent key is `none`, a key that holds a null
pointer is `some none`: the two read alike, but `insert` fills only the first, and `operator[]`
turns the first into the second.
-/

namespace Mvr

/-- A `std::map` from strings to pointers. -/
abbrev PtrMap (α : Type*) := String → Option (Option α)

namespace PtrMap

variable {α : Type*}

/-- The map without entries. -/
def empty : PtrMap α := fun _ => none

/-- The pointer that is read at a key. -/
def pointer (m : PtrMap α) (key : String) : Option α := (m key).join

/-- `m[key]`, which enters a null pointer under an absent key. -/
def index (m : PtrMap α) (key : String) : PtrMap α × Option α :=
  match m key with
  | some p => (m, p)
  | none => (Function.update m key (some none), none)

/-- `m.insert({key, &v})`, which leaves an entry that is there. -/
def insert (m : PtrMap α) (key : String) (v : α) : PtrMap α :=
  match m key with
  | some _ => m
  | none => Function.update m key (some (some v))

theorem pointer_eq_of_apply {m : PtrMap α} {key : String} {p : Option α}
    (h : m key = p.map some) : m.pointer key = p := by
  unfold pointer
  rw [h]
  cases p <;> rfl

/-- `operator[]` under an absent key. -/
theorem index_of_none {m : PtrMap α} {key : String} (h : m key = none) :
    m.index key = (Function.update m key (some none), none) := by
  unfold index
  rw [h]

/-- `operator[]` under a key that is there. -/
theorem index_of_some {m : PtrMap α} {key : String} {p : Option α} (h : m key = some p) :
    m.index key = (m, p) := by
  unfold index
  rw [h]

@[simp] theorem index_snd (m : PtrMap α) (key : String) : (m.index key).2 = m.pointer key := by
  unfold pointer
  cases hkey : m key with
  | some p => rw [index_of_some hkey, Option.join_some]
  | none => rw [index_of_none hkey, Option.join_none]

/-- `operator[]` changes no pointer that is read. -/
@[simp] theorem pointer_index (m : PtrMap α) (key key' : String) :
    (m.index key).1.pointer key' = m.pointer key' := by
  cases hkey : m key with
  | some p => rw [index_of_some hkey]
  | none =>
    rw [index_of_none hkey]
    change (Function.update m key (some none) key').join = (m key').join
    by_cases h : key' = key
    · rw [h, Function.update_self, hkey]
      rfl
    · rw [Function.update_of_ne h]

theorem insert_of_none {m : PtrMap α} {key : String} (h : m key = none) (v : α) :
    m.insert key v = Function.update m key (some (some v)) := by
  unfold insert
  rw [h]

theorem insert_of_some {m : PtrMap α} {key : String} {p : Option α} (h : m key = some p) (v : α) :
    m.insert key v = m := by
  unfold insert
  rw [h]

/-- The first insertion under a key stays. -/
theorem insert_self (m : PtrMap α) (key : String) (v : α) :
    m.insert key v key = (m key).or (some (some v)) := by
  cases hkey : m key with
  | some p => rw [insert_of_some hkey, hkey, Option.some_or]
  | none => rw [insert_of_none hkey, Function.update_self, Option.none_or]

theorem insert_of_ne (m : PtrMap α) {key key' : String} (h : key' ≠ key) (v : α) :
    m.insert key v key' = m key' := by
  cases hkey : m key with
  | some p => rw [insert_of_some hkey]
  | none => rw [insert_of_none hkey, Function.update_of_ne h]

end PtrMap

end Mvr
