import Mathlib.Data.List.Basic
import Mathlib.Data.List.Nodup
import Mathlib.Logic.Function.Basic
import Mvr.Checked.Basic

/-!
# Intrusive forward lists

The objects of a list carry the pointer to the next object in a member of their own, and the list
is a pointer to its first object.  `insert` puts an object in front; `remove` and `foreach` walk
with a pointer to a pointer, `Loc`, which is the list's own pointer or the member of an object.
Every access to an object checks that the object is allocated.

`IsList` says which objects are on the list.  It determines them, none is on the list twice, and
the three operations are those of lists: `insert_eq_ok`, `remove_eq_ok` and `foreach_eq`.
-/

namespace Mvr.FwdList

variable {α β σ : Type}

/-- The member of the objects that points to the next one. -/
structure Member (α β : Type) where
  get : β → Option α
  set : Option α → β → β
  get_set : ∀ next object, get (set next object) = next

/-- A list's pointer, and the allocated objects. -/
structure Cells (α β : Type) where
  head : Option α
  heap : α → Option β

/-- A pointer to a pointer of the list. -/
inductive Loc (α : Type) where
  | head
  | member (object : α)

/-- The object behind a pointer. -/
def Cells.deref (c : Cells α β) (p : α) : Checked β :=
  (c.heap p).elim (.error .badPointer) .ok

section Operations

variable [DecidableEq α] (m : Member α β)

/-- The object behind a pointer is overwritten. -/
def Cells.write (c : Cells α β) (p : α) (object : β) : Cells α β :=
  { c with heap := Function.update c.heap p (some object) }

/-- `*it`. -/
def Cells.load (c : Cells α β) : Loc α → Checked (Option α)
  | .head => .ok c.head
  | .member p => do
    let object ← c.deref p
    pure (m.get object)

/-- `*it = next`. -/
def Cells.store (c : Cells α β) (it : Loc α) (next : Option α) : Checked (Cells α β) :=
  match it with
  | .head => .ok { c with head := next }
  | .member p => do
    let object ← c.deref p
    pure (c.write p (m.set next object))

/-- Put an object in front of the list. -/
def insert (p : α) (c : Cells α β) : Checked (Cells α β) := do
  let object ← c.deref p
  pure { c.write p (m.set c.head object) with head := some p }

/-- The loop that takes `target` off the list, at `it`. -/
def removeFrom (target : α) : ℕ → Loc α → Cells α β → Checked (Cells α β)
  | 0, _, _ => .error .outOfFuel
  | fuel + 1, it, c => do
    let here ← c.load m it
    match here with
    | none => pure c
    | some p =>
      if p = target then do
        let object ← c.deref target
        c.store m it (m.get object)
      else
        removeFrom target fuel (.member p) c

/-- Take an object off the list. -/
def remove (fuel : ℕ) (target : α) (c : Cells α β) : Checked (Cells α β) :=
  removeFrom m target fuel .head c

/-- The loop over the objects of the list, at `it`. -/
def foreachFrom (c : Cells α β) (body : σ → α → Checked σ) : ℕ → Loc α → σ → Checked σ
  | 0, _, _ => .error .outOfFuel
  | fuel + 1, it, s => do
    let here ← c.load m it
    match here with
    | none => pure s
    | some p => do
      let s ← body s p
      foreachFrom c body fuel (.member p) s

/-- A loop over the objects of the list. -/
def foreach (fuel : ℕ) (c : Cells α β) (body : σ → α → Checked σ) (s : σ) : Checked σ :=
  foreachFrom m c body fuel .head s

end Operations

/-! ### The objects on a list -/

/-- The objects from a pointer on. -/
inductive IsList (m : Member α β) (heap : α → Option β) : Option α → List α → Prop
  | nil : IsList m heap none []
  | cons {p : α} {object : β} {l : List α} (hp : heap p = some object)
      (h : IsList m heap (m.get object) l) : IsList m heap (some p) (p :: l)

namespace IsList

variable {m : Member α β} {heap : α → Option β} {head : Option α} {l l' : List α} {p : α}

theorem unique (h : IsList m heap head l) (h' : IsList m heap head l') : l = l' := by
  induction h generalizing l' with
  | nil =>
    cases h'
    rfl
  | cons hp h ih =>
    cases h' with
    | cons hp' h' =>
      obtain rfl := Option.some.inj (hp.symm.trans hp')
      rw [ih h']

/-- The list from one of its objects on. -/
theorem exists_suffix (h : IsList m heap head l) (hp : p ∈ l) :
    ∃ l', l' <:+ l ∧ IsList m heap (some p) l' := by
  induction h with
  | nil => cases hp
  | @cons q object l hq h ih =>
    rcases List.mem_cons.mp hp with rfl | hmem
    · exact ⟨p :: l, List.suffix_rfl, .cons hq h⟩
    · obtain ⟨l', hsuffix, hl'⟩ := ih hmem
      exact ⟨l', hsuffix.trans (List.suffix_cons q l), hl'⟩

/-- No object is on the list twice: the list from it on would be as long as a part of it. -/
theorem nodup (h : IsList m heap head l) : l.Nodup := by
  induction h with
  | nil => exact List.nodup_nil
  | @cons p object l hp h ih =>
    refine List.nodup_cons.mpr ⟨fun hmem => ?_, ih⟩
    obtain ⟨l', hsuffix, hl'⟩ := h.exists_suffix hmem
    have heq : p :: l = l' := (IsList.cons hp h).unique hl'
    have hle := hsuffix.length_le
    rw [← heq, List.length_cons] at hle
    omega

theorem allocated (h : IsList m heap head l) (hp : p ∈ l) : ∃ object, heap p = some object := by
  induction h with
  | nil => cases hp
  | cons hq h ih =>
    rcases List.mem_cons.mp hp with rfl | hmem
    · exact ⟨_, hq⟩
    · exact ih hmem

/-- The list depends only on what its objects point to. -/
theorem congr {heap' : α → Option β} (h : IsList m heap head l)
    (hheap : ∀ p ∈ l, ∀ object, heap p = some object →
      ∃ object', heap' p = some object' ∧ m.get object' = m.get object) :
    IsList m heap' head l := by
  induction h with
  | nil => exact .nil
  | @cons p object l hp h ih =>
    obtain ⟨object', hp', hget⟩ := hheap p (List.mem_cons_self ..) object hp
    refine .cons hp' ?_
    rw [hget]
    exact ih fun q hq => hheap q (List.mem_cons_of_mem _ hq)

variable [DecidableEq α]

/-- Changes outside the list do not concern it. -/
theorem update_of_notMem (h : IsList m heap head l) (hp : p ∉ l) (v : Option β) :
    IsList m (Function.update heap p v) head l := by
  refine h.congr fun q hq object hobject => ⟨object, ?_, rfl⟩
  have hne : q ≠ p := by
    rintro rfl
    exact hp hq
  rw [Function.update_of_ne hne, hobject]

/-- An object may change in its other members. -/
theorem update_of_get {object object' : β} (h : IsList m heap head l) (hp : heap p = some object)
    (hget : m.get object' = m.get object) :
    IsList m (Function.update heap p (some object')) head l := by
  refine h.congr fun q hq old hold => ?_
  rcases eq_or_ne q p with rfl | hne
  · obtain rfl := Option.some.inj (hp.symm.trans hold)
    exact ⟨object', Function.update_self .., hget⟩
  · exact ⟨old, by rw [Function.update_of_ne hne, hold], rfl⟩

end IsList

/-! ### The operations -/

section Spec

variable {m : Member α β} {c : Cells α β} {l : List α} {p : α}

theorem Cells.deref_eq_ok {object : β} : c.deref p = .ok object ↔ c.heap p = some object := by
  unfold Cells.deref
  cases c.heap p with
  | none => exact iff_of_false (fun h => by cases h) (fun h => by cases h)
  | some old =>
    rw [Option.elim_some]
    constructor
    · intro h
      rw [Except.ok.inj h]
    · intro h
      rw [Option.some.inj h]

theorem Cells.load_member_eq_ok {next : Option α} :
    c.load m (.member p) = .ok next ↔ ∃ object, c.heap p = some object ∧ m.get object = next := by
  unfold Cells.load
  dsimp only
  rw [Checked.bind_eq_ok]
  constructor
  · rintro ⟨object, hderef, hget⟩
    exact ⟨object, Cells.deref_eq_ok.mp hderef, Except.ok.inj hget⟩
  · rintro ⟨object, hp, rfl⟩
    exact ⟨object, Cells.deref_eq_ok.mpr hp, rfl⟩

variable [DecidableEq α]

/-- An object that is not on the list goes to its front. -/
theorem insert_eq_ok (h : IsList m c.heap c.head l) {object : β} (hobject : c.heap p = some object)
    (hp : p ∉ l) : ∃ c', insert m p c = .ok c' ∧ IsList m c'.heap c'.head (p :: l) ∧
      c'.heap = Function.update c.heap p (some (m.set c.head object)) := by
  refine ⟨{ c.write p (m.set c.head object) with head := some p }, ?_, ?_, rfl⟩
  · unfold insert
    rw [Cells.deref_eq_ok.mpr hobject]
    rfl
  · refine .cons (Function.update_self ..) ?_
    rw [m.get_set]
    exact h.update_of_notMem hp _

/-- The objects are the same but for what they point to. -/
def Relinked (m : Member α β) (c c' : Cells α β) : Prop :=
  ∀ p, c'.heap p = c.heap p ∨
    ∃ object next, c.heap p = some object ∧ c'.heap p = some (m.set next object)

/-- A store changes the place it is at and nothing else. -/
theorem Cells.store_eq_ok {it : Loc α} {here : Option α} (h : c.load m it = .ok here)
    (next : Option α) : ∃ c', c.store m it next = .ok c' ∧ c'.load m it = .ok next ∧
      (∀ loc, loc ≠ it → c'.load m loc = c.load m loc) ∧
      (∀ p, it ≠ .member p → c'.heap p = c.heap p) ∧ Relinked m c c' := by
  cases it with
  | head =>
    refine ⟨_, rfl, rfl, fun loc hloc => ?_, fun p _ => rfl, fun p => Or.inl rfl⟩
    cases loc with
    | head => exact absurd rfl hloc
    | member p => rfl
  | member p =>
    obtain ⟨object, hp, -⟩ := Cells.load_member_eq_ok.mp h
    have hother : ∀ q, q ≠ p → (c.write p (m.set next object)).heap q = c.heap q := fun q hq =>
      Function.update_of_ne hq ..
    have hself : (c.write p (m.set next object)).heap p = some (m.set next object) :=
      Function.update_self ..
    refine ⟨c.write p (m.set next object), ?_, ?_, fun loc hloc => ?_, fun q hq => ?_, fun q => ?_⟩
    · unfold Cells.store
      dsimp only
      rw [Cells.deref_eq_ok.mpr hp]
      rfl
    · exact Cells.load_member_eq_ok.mpr ⟨_, hself, m.get_set ..⟩
    · cases loc with
      | head => rfl
      | member q =>
        have hq : q ≠ p := by
          rintro rfl
          exact hloc rfl
        unfold Cells.load Cells.deref
        dsimp only
        rw [hother q hq]
    · refine hother q ?_
      rintro rfl
      exact hq rfl
    · rcases eq_or_ne q p with rfl | hq
      · exact Or.inr ⟨object, next, hp, hself⟩
      · exact Or.inl (hother q hq)

/-- The loop takes the target off the part of the list it has not passed. -/
theorem removeFrom_eq_ok (target : α) {fuel : ℕ} {it : Loc α} {here : Option α}
    (hload : c.load m it = .ok here) (hlist : IsList m c.heap here l)
    (hit : ∀ p ∈ l, it ≠ .member p) (hfuel : l.length < fuel) :
    ∃ c' here', removeFrom m target fuel it c = .ok c' ∧ c'.load m it = .ok here' ∧
      IsList m c'.heap here' (l.erase target) ∧
      (∀ loc, loc ≠ it → (∀ p ∈ l, loc ≠ .member p) → c'.load m loc = c.load m loc) ∧
      Relinked m c c' := by
  induction l generalizing fuel it here with
  | nil =>
    obtain ⟨fuel, rfl⟩ := Nat.exists_eq_add_one_of_ne_zero (show fuel ≠ 0 by omega)
    cases hlist
    refine ⟨c, none, ?_, hload, .nil, fun _ _ _ => rfl, fun p => Or.inl rfl⟩
    unfold removeFrom
    rw [hload]
    rfl
  | cons p l ih =>
    obtain ⟨fuel, rfl⟩ := Nat.exists_eq_add_one_of_ne_zero (show fuel ≠ 0 by omega)
    have hnodup := List.nodup_cons.mp hlist.nodup
    cases hlist with
    | @cons _ object _ hp hrest =>
      unfold removeFrom
      rw [hload, Checked.ok_bind]
      dsimp only
      by_cases htarget : p = target
      · -- found: the place before it gets what it points to
        subst htarget
        obtain ⟨c', hstore, hload', hframe, hheap, hrelinked⟩ :=
          Cells.store_eq_ok hload (m.get object)
        refine ⟨c', m.get object, ?_, hload', ?_, fun loc hloc _ => hframe loc hloc, hrelinked⟩
        · rw [if_pos rfl, Cells.deref_eq_ok.mpr hp]
          exact hstore
        · rw [List.erase_cons_head]
          refine hrest.congr fun q hq old hold => ⟨old, ?_, rfl⟩
          rw [hheap q (hit q (List.mem_cons_of_mem _ hq)), hold]
      · -- not yet: the walk goes on at the member of this object
        rw [if_neg htarget, List.erase_cons_tail (by simpa using htarget)]
        have hmember : c.load m (.member p) = .ok (m.get object) :=
          Cells.load_member_eq_ok.mpr ⟨object, hp, rfl⟩
        have hit' : ∀ q ∈ l, Loc.member p ≠ .member q := by
          rintro q hq ⟨⟩
          exact hnodup.1 hq
        obtain ⟨c', here', hok, hload', hlist', hframe, hrelinked⟩ :=
          ih hmember hrest hit' (by simpa using hfuel)
        obtain ⟨object', hp', hget'⟩ := Cells.load_member_eq_ok.mp hload'
        refine ⟨c', some p, hok, ?_, .cons hp' (hget' ▸ hlist'), fun loc hloc hmem => ?_,
          hrelinked⟩
        · rw [← hload]
          exact hframe it (hit p (List.mem_cons_self ..)) fun q hq =>
            hit q (List.mem_cons_of_mem _ hq)
        · exact hframe loc (hmem p (List.mem_cons_self ..)) fun q hq =>
            hmem q (List.mem_cons_of_mem _ hq)

/-- The target is taken off the list. -/
theorem remove_eq_ok (h : IsList m c.heap c.head l) (target : α) {fuel : ℕ}
    (hfuel : l.length < fuel) : ∃ c', remove m fuel target c = .ok c' ∧
      IsList m c'.heap c'.head (l.erase target) ∧ Relinked m c c' := by
  obtain ⟨c', here', hok, hload, hlist, -, hrelinked⟩ :=
    removeFrom_eq_ok target (show c.load m .head = .ok c.head from rfl) h (fun p _ => by simp) hfuel
  have hhead : c'.head = here' := Except.ok.inj hload
  rw [← hhead] at hlist
  exact ⟨c', hok, hlist, hrelinked⟩

omit [DecidableEq α] in
/-- A loop over the list is a loop over its objects. -/
theorem foreachFrom_eq (body : σ → α → Checked σ) {fuel : ℕ} {it : Loc α} {here : Option α}
    (hload : c.load m it = .ok here) (hlist : IsList m c.heap here l) (hfuel : l.length < fuel)
    (s : σ) : foreachFrom m c body fuel it s = l.foldlM body s := by
  induction l generalizing fuel it here s with
  | nil =>
    obtain ⟨fuel, rfl⟩ := Nat.exists_eq_add_one_of_ne_zero (show fuel ≠ 0 by omega)
    cases hlist
    unfold foreachFrom
    rw [hload]
    rfl
  | cons p l ih =>
    obtain ⟨fuel, rfl⟩ := Nat.exists_eq_add_one_of_ne_zero (show fuel ≠ 0 by omega)
    cases hlist with
    | @cons _ object _ hp hrest =>
      unfold foreachFrom
      rw [hload, Checked.ok_bind, List.foldlM_cons]
      dsimp only
      congr 1
      funext s'
      exact ih (Cells.load_member_eq_ok.mpr ⟨object, hp, rfl⟩) hrest (by simpa using hfuel) s'

omit [DecidableEq α] in
theorem foreach_eq (h : IsList m c.heap c.head l) (body : σ → α → Checked σ) {fuel : ℕ}
    (hfuel : l.length < fuel) (s : σ) : foreach m fuel c body s = l.foldlM body s :=
  foreachFrom_eq body (show c.load m .head = .ok c.head from rfl) h hfuel s

end Spec

end Mvr.FwdList
