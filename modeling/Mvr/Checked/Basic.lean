import Mathlib.Data.List.Induction
import Mathlib.Data.Vector.Basic
import Mathlib.Tactic.Common

/-!
# Checked computations

A C++ function is a computation that either returns or hits a `Fault`: an array index outside the
array, a division by zero, an exception nobody catches, or a library call whose result its
documentation leaves open.  `Checked α` is `Except Fault α`; `Checked.get`, `Checked.set`,
`Checked.div` and `Checked.mod` are the guarded accesses, and a counted loop is a `List.foldlM`.

Two rules carry the loop proofs.  `Checked.foldlM_eq_ok` turns a loop whose body never faults into
a plain `List.foldl`; `Checked.foldlM_isOk_iff` says that a loop whose body faults on some
elements returns exactly when none of them occurs in the list.
-/

namespace Mvr

/-- What stops a computation. -/
inductive Fault where
  /-- An index outside its array. -/
  | outOfBounds (index : Int)
  /-- The divisor of `/` or `%` is zero. -/
  | divideByZero
  /-- A null, dangling or past-the-end pointer is dereferenced. -/
  | badPointer
  /-- An exception that no handler catches. -/
  | uncaught (exception : String)
  /-- A library call whose result is not determined by what is known of the library. -/
  | unspecified
  /-- A recursion deeper than the fuel the model gives it. -/
  | outOfFuel
  deriving DecidableEq, Repr

/-- A computation that returns a value or stops with a fault. -/
abbrev Checked (α : Type*) := Except Fault α

/-- An access the language leaves undefined: an index outside its array, or a zero divisor. -/
def Fault.IsAccess : Fault → Prop
  | .outOfBounds _ => True
  | .divideByZero => True
  | _ => False

instance : DecidablePred Fault.IsAccess := fun e => by
  cases e <;> unfold Fault.IsAccess <;> infer_instance

namespace Checked

universe u

variable {α β σ : Type u}

/-- The computation returns. -/
def IsOk (x : Checked α) : Prop := ∃ a, x = .ok a

instance (x : Checked α) : Decidable x.IsOk :=
  match x with
  | .ok a => isTrue ⟨a, rfl⟩
  | .error _ => isFalse fun ⟨_, h⟩ => by cases h

@[simp] theorem isOk_ok (a : α) : IsOk (.ok a : Checked α) := ⟨a, rfl⟩

@[simp] theorem isOk_pure (a : α) : IsOk (pure a : Checked α) := ⟨a, rfl⟩

@[simp] theorem not_isOk_error (e : Fault) : ¬ IsOk (.error e : Checked α) := by
  rintro ⟨a, h⟩
  cases h

/-- A check faults unless its condition holds. -/
theorem isOk_ite_iff {p : Prop} [Decidable p] (a : α) (e : Fault) :
    IsOk (if p then .ok a else .error e : Checked α) ↔ p := by
  split_ifs with h <;> simp [h]

theorem ok_bind (a : α) (f : α → Checked β) : ((.ok a : Checked α) >>= f) = f a := rfl

theorem error_bind (e : Fault) (f : α → Checked β) :
    ((.error e : Checked α) >>= f) = .error e := rfl

theorem bind_eq_ok {x : Checked α} {f : α → Checked β} {b : β} :
    x >>= f = .ok b ↔ ∃ a, x = .ok a ∧ f a = .ok b := by
  cases x with
  | ok a => simp [ok_bind]
  | error e => simp [error_bind]

theorem isOk_bind_iff {x : Checked α} {f : α → Checked β} :
    (x >>= f).IsOk ↔ ∃ a, x = .ok a ∧ (f a).IsOk := by
  unfold IsOk
  simp only [bind_eq_ok]
  constructor
  · rintro ⟨b, a, ha, hb⟩
    exact ⟨a, ha, b, hb⟩
  · rintro ⟨a, ha, b, hb⟩
    exact ⟨b, a, ha, hb⟩

/-- Every fault the computation may stop with satisfies `P`. -/
def FaultsIn (P : Fault → Prop) (x : Checked α) : Prop := ∀ e, x = .error e → P e

theorem faultsIn_ok (P : Fault → Prop) (a : α) : FaultsIn P (.ok a : Checked α) := by
  intro e h
  cases h

theorem FaultsIn.bind {P : Fault → Prop} {x : Checked α} {f : α → Checked β}
    (hx : x.FaultsIn P) (hf : ∀ a, x = .ok a → (f a).FaultsIn P) : (x >>= f).FaultsIn P := by
  cases x with
  | ok a => exact hf a rfl
  | error e =>
    rintro e' h
    cases h
    exact hx e rfl

/-- A computation whose faults all satisfy `P` returns exactly when it has no such fault. -/
theorem isOk_iff_faultsIn_not {P : Fault → Prop} {x : Checked α} (h : x.FaultsIn P) :
    x.IsOk ↔ x.FaultsIn fun e => ¬ P e := by
  cases x with
  | ok a => simp [faultsIn_ok]
  | error e =>
    simp only [not_isOk_error, false_iff]
    intro hnot
    exact hnot e rfl (h e rfl)

/-! ### Guarded accesses -/

variable {n : ℕ}

/-- `a[i]`, for an index of either sign. -/
def get (a : Vector α n) (i : Int) : Checked α :=
  if h : 0 ≤ i ∧ i < n then .ok (a.get ⟨i.toNat, by omega⟩) else .error (.outOfBounds i)

/-- `a[i] = v`, for an index of either sign. -/
def set (a : Vector α n) (i : Int) (v : α) : Checked (Vector α n) :=
  if 0 ≤ i ∧ i < n then .ok (a.setIfInBounds i.toNat v) else .error (.outOfBounds i)

/-- `a / b` on `int`. -/
def div (a b : Int32) : Checked Int32 :=
  if b = 0 then .error .divideByZero else .ok (a / b)

/-- `a % b` on `int`. -/
def mod (a b : Int32) : Checked Int32 :=
  if b = 0 then .error .divideByZero else .ok (a % b)

theorem get_natCast (a : Vector α n) {i : ℕ} (h : i < n) : get a (i : Int) = .ok a[i] := by
  unfold get
  rw [dif_pos ⟨by omega, by omega⟩]
  rfl

theorem get_isOk_iff (a : Vector α n) (i : Int) : (get a i).IsOk ↔ 0 ≤ i ∧ i < n := by
  unfold get
  split_ifs with h <;> simp [h]

theorem set_eq_ok (a : Vector α n) {i : Int} (h : 0 ≤ i ∧ i < n) (v : α) :
    set a i v = .ok (a.setIfInBounds i.toNat v) := by
  unfold set
  rw [if_pos h]

theorem set_isOk_iff (a : Vector α n) (i : Int) (v : α) : (set a i v).IsOk ↔ 0 ≤ i ∧ i < n :=
  isOk_ite_iff ..

theorem div_eq_ok (a : Int32) {b : Int32} (h : b ≠ 0) : div a b = .ok (a / b) := by
  unfold div
  rw [if_neg h]

theorem mod_eq_ok (a : Int32) {b : Int32} (h : b ≠ 0) : mod a b = .ok (a % b) := by
  unfold mod
  rw [if_neg h]

theorem get_faultsIn (a : Vector α n) (i : Int) : (get a i).FaultsIn Fault.IsAccess := by
  unfold get
  split_ifs
  · exact faultsIn_ok _ _
  · rintro e ⟨⟩
    trivial

theorem set_faultsIn (a : Vector α n) (i : Int) (v : α) :
    (set a i v).FaultsIn Fault.IsAccess := by
  unfold set
  split_ifs
  · exact faultsIn_ok _ _
  · rintro e ⟨⟩
    trivial

theorem div_faultsIn (a b : Int32) : (div a b).FaultsIn Fault.IsAccess := by
  unfold div
  split_ifs
  · rintro e ⟨⟩
    trivial
  · exact faultsIn_ok _ _

theorem mod_faultsIn (a b : Int32) : (mod a b).FaultsIn Fault.IsAccess := by
  unfold mod
  split_ifs
  · rintro e ⟨⟩
    trivial
  · exact faultsIn_ok _ _

/-! ### Loops -/

/-- The faults of a loop are those of its body. -/
theorem foldlM_faultsIn {P : Fault → Prop} {f : σ → α → Checked σ} {l : List α} (s : σ)
    (h : ∀ s, ∀ a ∈ l, (f s a).FaultsIn P) : (l.foldlM f s).FaultsIn P := by
  induction l generalizing s with
  | nil => exact faultsIn_ok _ _
  | cons a l ih =>
    rw [List.foldlM_cons]
    exact (h s a (List.mem_cons_self ..)).bind fun s' _ =>
      ih s' fun t b hb => h t b (List.mem_cons_of_mem _ hb)

/-- A loop whose body never faults on the elements of the list is a plain fold. -/
theorem foldlM_eq_ok {f : σ → α → Checked σ} {g : σ → α → σ} {l : List α} (s : σ)
    (h : ∀ s, ∀ a ∈ l, f s a = .ok (g s a)) : l.foldlM f s = .ok (l.foldl g s) := by
  induction l generalizing s with
  | nil => rfl
  | cons a l ih =>
    rw [List.foldlM_cons, h s a (List.mem_cons_self ..), ok_bind, List.foldl_cons]
    exact ih (g s a) fun s b hb => h s b (List.mem_cons_of_mem _ hb)

/-- A loop over the elements of a list that all give a value collects the values. -/
theorem mapM_eq_ok {f : α → Checked β} {l : List α} {bs : List β}
    (h : List.Forall₂ (fun a b => f a = .ok b) l bs) : l.mapM f = .ok bs := by
  induction h with
  | nil => rfl
  | cons hab _ ih =>
    rw [List.mapM_cons, hab, ok_bind, ih]
    rfl

/-- A loop returns exactly when every element of its list satisfies `p`, if in the states of the
invariant `I`, which the body preserves, the body faults exactly on the elements outside `p`. -/
theorem foldlM_isOk_iff {f : σ → α → Checked σ} {p : α → Prop} (I : σ → Prop) {l : List α} {s : σ}
    (hs : I s) (hok : ∀ s, ∀ a ∈ l, I s → ((f s a).IsOk ↔ p a))
    (hstep : ∀ s a s', a ∈ l → I s → f s a = .ok s' → I s') :
    (l.foldlM f s).IsOk ↔ ∀ a ∈ l, p a := by
  induction l generalizing s with
  | nil => simp
  | cons a l ih =>
    have hrest : ∀ s', I s' → ((l.foldlM f s').IsOk ↔ ∀ b ∈ l, p b) := fun s' hs' =>
      ih hs' (fun t b hb => hok t b (List.mem_cons_of_mem _ hb))
        (fun t b t' hb => hstep t b t' (List.mem_cons_of_mem _ hb))
    have ha := hok s a (List.mem_cons_self ..) hs
    rw [List.foldlM_cons, isOk_bind_iff, List.forall_mem_cons]
    constructor
    · rintro ⟨s', hs', hl⟩
      exact ⟨ha.mp ⟨s', hs'⟩, (hrest s' (hstep s a s' (List.mem_cons_self ..) hs hs')).mp hl⟩
    · rintro ⟨hpa, hl⟩
      obtain ⟨s', hs'⟩ := ha.mpr hpa
      exact ⟨s', hs', (hrest s' (hstep s a s' (List.mem_cons_self ..) hs hs')).mpr hl⟩

/-- A loop over the positions of a list that reads the element at each position is the loop over
the elements. -/
theorem foldlM_range_getElem {l : List α} (g : ℕ → Checked α) (f : σ → α → Checked σ)
    (hg : ∀ i (hi : i < l.length), g i = .ok l[i]) (s : σ) :
    (List.range l.length).foldlM (fun s i => do let a ← g i; f s a) s = l.foldlM f s := by
  induction l using List.reverseRecOn generalizing s with
  | nil => rfl
  | append_singleton l a ih =>
    -- the positions before the last one are those of the shorter list
    have hinit : ∀ i (hi : i < l.length), g i = .ok l[i] := fun i hi => by
      rw [hg i (by simp; omega), List.getElem_append_left hi]
    have hlast : g l.length = .ok a := by
      rw [hg l.length (by simp)]
      simp
    rw [List.length_append, List.length_singleton, List.range_succ, List.foldlM_append, ih hinit,
      List.foldlM_append]
    simp only [List.foldlM_cons, List.foldlM_nil, hlast, ok_bind]

end Checked

end Mvr
