import Mvr.PTree.Basic
import Mvr.CText.Equiv

/-!
# Reading back a property tree

What `get` returns after `put`: the value put under the same key (`getInt_putInt_self`,
`find?_putChild_self`), and whatever was there before under any other key (`find?_putChild_of_ne`,
`find?_put_of_ne`).
-/

namespace Mvr.PTree

@[simp] theorem children_node (s : String) (cs : List (String × PTree)) :
    (node s cs).children = cs := rfl

@[simp] theorem data_node (s : String) (cs : List (String × PTree)) : (node s cs).data = s := rfl

/-! ### The first child with a key -/

theorem find?_upsert_self (key : String) (c : PTree) (cs : List (String × PTree)) :
    (upsert key c cs).find? (fun p => p.1 = key) = some (key, c) := by
  induction cs with
  | nil => simp [upsert]
  | cons p cs ih =>
    obtain ⟨k, t⟩ := p
    rw [upsert]
    split_ifs with h
    · subst h
      simp
    · simp [h, ih]

theorem find?_upsert_of_ne {key key' : String} (h : key' ≠ key) (c : PTree)
    (cs : List (String × PTree)) :
    (upsert key c cs).find? (fun p => p.1 = key') = cs.find? (fun p => p.1 = key') := by
  induction cs with
  | nil => simp [upsert, h.symm]
  | cons p cs ih =>
    obtain ⟨k, t⟩ := p
    rw [upsert]
    split_ifs with hk
    · subst hk
      simp [h.symm]
    · rw [List.find?_cons, List.find?_cons, ih]

@[simp] theorem find?_putChild_self (t : PTree) (key : String) (c : PTree) :
    (t.putChild key c).find? key = some c := by
  simp [find?, putChild, find?_upsert_self]

@[simp] theorem find?_putChild_of_ne (t : PTree) {key key' : String} (h : key' ≠ key) (c : PTree) :
    (t.putChild key c).find? key' = t.find? key' := by
  simp [find?, putChild, find?_upsert_of_ne h]

/-- There is a child with the key exactly when `count` is positive. -/
theorem count_pos_iff (t : PTree) (key : String) : 0 < t.count key ↔ (t.find? key).isSome := by
  simp [count, find?, List.countP_pos_iff]

theorem find?_put_self (t : PTree) (key s : String) :
    ∃ cs, (t.put key s).find? key = some (node s cs) := by
  unfold put
  cases t.find? key with
  | none => exact ⟨[], by simp [leaf]⟩
  | some c => exact ⟨c.children, by simp⟩

@[simp] theorem find?_put_of_ne (t : PTree) {key key' : String} (h : key' ≠ key) (s : String) :
    (t.put key s).find? key' = t.find? key' := by
  unfold put
  cases t.find? key with
  | none => simp [h]
  | some c => simp [h]

/-! ### Putting what is there already -/

theorem upsert_of_find? {key : String} {c : PTree} {cs : List (String × PTree)}
    (h : cs.find? (fun p => p.1 = key) = some (key, c)) : upsert key c cs = cs := by
  induction cs with
  | nil => simp at h
  | cons p cs ih =>
    obtain ⟨k, t⟩ := p
    rw [upsert]
    split_ifs with hk
    · rw [List.find?_cons_of_pos (by simpa using hk)] at h
      rw [(Prod.mk.inj (Option.some.inj h)).2]
    · rw [List.find?_cons_of_neg (by simpa using hk)] at h
      rw [ih h]

theorem putChild_of_find? {t : PTree} {key : String} {c : PTree} (h : t.find? key = some c) :
    t.putChild key c = t := by
  obtain ⟨s, cs⟩ := t
  unfold find? at h
  obtain ⟨⟨k, c'⟩, hfind, rfl⟩ := Option.map_eq_some_iff.mp h
  obtain rfl : k = key := by simpa using List.find?_some hfind
  rw [putChild, upsert_of_find? hfind]
  rfl

theorem putInt_of_find? {t : PTree} {key : String} {n : Int32} {cs : List (String × PTree)}
    (h : t.find? key = some (node (CText.formatInt n.toInt) cs)) : t.putInt key n = t := by
  rw [putInt, put, h]
  exact putChild_of_find? h

/-- The number of children with a key only grows when there was none. -/
theorem count_putChild_self (t : PTree) (key : String) (c : PTree) :
    (t.putChild key c).count key = max 1 (t.count key) := by
  show (upsert key c t.children).countP (fun p => p.1 = key)
    = max 1 (t.children.countP fun p => p.1 = key)
  induction t.children with
  | nil => simp [upsert]
  | cons p cs ih =>
    obtain ⟨k, t⟩ := p
    rw [upsert]
    split_ifs with hk
    · -- the first child with the key is replaced
      rw [List.countP_cons_of_pos (by simpa using hk), List.countP_cons_of_pos (by simpa using hk)]
      omega
    · -- another key: the replacement is further down
      rw [List.countP_cons_of_neg (by simpa using hk), List.countP_cons_of_neg (by simpa using hk),
        ih]

/-! ### The accessors -/

theorem getString_congr {t t' : PTree} {key : String} (h : t.find? key = t'.find? key)
    (default : String) : t.getString key default = t'.getString key default := by
  simp [getString, h]

theorem getInt_congr {t t' : PTree} {key : String} (h : t.find? key = t'.find? key)
    (default : Int32) : t.getInt key default = t'.getInt key default := by
  simp [getInt, h]

theorem translateInt_formatInt (n : Int32) : translateInt (CText.formatInt n.toInt) = some n := by
  simp [translateInt, CText.extractInt?_formatInt]

/-- `get<int>` returns the `int` that was put. -/
@[simp] theorem getInt_putInt_self (t : PTree) (key : String) (n default : Int32) :
    (t.putInt key n).getInt key default = n := by
  obtain ⟨cs, hcs⟩ := t.find?_put_self key (CText.formatInt n.toInt)
  simp [getInt, putInt, hcs, translateInt_formatInt]

@[simp] theorem getInt_putInt_of_ne (t : PTree) {key key' : String} (h : key' ≠ key)
    (n default : Int32) : (t.putInt key n).getInt key' default = t.getInt key' default :=
  getInt_congr (find?_put_of_ne t h _) default

@[simp] theorem getInt_putChild_of_ne (t : PTree) {key key' : String} (h : key' ≠ key) (c : PTree)
    (default : Int32) : (t.putChild key c).getInt key' default = t.getInt key' default :=
  getInt_congr (find?_putChild_of_ne t h c) default

end Mvr.PTree
