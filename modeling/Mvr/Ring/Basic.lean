import Mathlib.Data.List.DropRight
import Mathlib.Data.Nat.ModEq
import Mathlib.Logic.Function.Basic
import Mathlib.Tactic.Common

/-!
# Queues in a ring of slots

A queue lies in `n` slots: its oldest element in the slot after `front`, its newest in the slot
`back`, and the others cyclically between.  The ring is empty when `back` is `front`, so that it is
full with `n - 1` elements.  `Holds` says which queue the slots hold, and has a rule for each
operation.

A full ring makes room by giving up its oldest element, `push`, so that it holds the newest `n - 1`
elements (`push_rtake`).
-/

namespace Mvr.Ring

variable {α : Type*} {n front back : ℕ} {slots : ℕ → α} {q : List α} {x : α}

/-- The slots hold the queue. -/
structure Holds (n : ℕ) (slots : ℕ → α) (front back : ℕ) (q : List α) : Prop where
  front_lt : front < n
  length_lt : q.length < n
  back_eq : back = (front + q.length) % n
  slot_eq : ∀ (i : ℕ) (hi : i < q.length), slots ((front + 1 + i) % n) = q[i]

/-- Different places of a ring are different slots. -/
theorem add_mod_ne {a i j : ℕ} (hij : i < j) (hj : j < i + n) : (a + i) % n ≠ (a + j) % n := by
  intro h
  obtain ⟨k, hk⟩ := (Nat.modEq_iff_dvd' (by omega)).mp h
  have hdiff : j - i = n * k := by omega
  cases k with
  | zero => omega
  | succ k =>
    have hle : n ≤ n * (k + 1) := Nat.le_mul_of_pos_right n k.succ_pos
    omega

theorem holds_nil (slots : ℕ → α) (h : front < n) : Holds n slots front front [] where
  front_lt := h
  length_lt := Nat.zero_lt_of_lt h
  back_eq := (Nat.mod_eq_of_lt h).symm
  slot_eq _ hi := absurd hi (Nat.not_lt_zero _)

namespace Holds

/-- The ring is empty when its ends meet. -/
theorem back_eq_front_iff (h : Holds n slots front back q) : back = front ↔ q = [] := by
  rw [h.back_eq, ← List.length_eq_zero_iff]
  constructor
  · intro heq
    by_contra hne
    have hlen := h.length_lt
    refine add_mod_ne (a := front) (i := 0) (j := q.length) (n := n) (by omega) (by omega) ?_
    rw [Nat.add_zero, Nat.mod_eq_of_lt h.front_lt, heq]
  · intro hlen
    rw [hlen, Nat.add_zero, Nat.mod_eq_of_lt h.front_lt]

/-- The ring is full when its ends are about to meet. -/
theorem next_eq_front_iff (h : Holds n slots front back q) :
    (back + 1) % n = front ↔ q.length + 1 = n := by
  rw [h.back_eq, Nat.mod_add_mod, Nat.add_assoc]
  constructor
  · intro heq
    by_contra hne
    have hlen := h.length_lt
    refine add_mod_ne (a := front) (i := 0) (j := q.length + 1) (n := n) (by omega) (by omega) ?_
    rw [Nat.add_zero, Nat.mod_eq_of_lt h.front_lt, heq]
  · intro hlen
    rw [hlen, Nat.add_mod_right, Nat.mod_eq_of_lt h.front_lt]

/-- The oldest element is in the slot after the front. -/
theorem next_slot (h : Holds n slots front back (x :: q)) : slots ((front + 1) % n) = x :=
  h.slot_eq 0 (Nat.succ_pos _)

/-- The oldest element is taken out, and its slot overwritten. -/
theorem pop (h : Holds n slots front back (x :: q)) (v : α) :
    Holds n (Function.update slots ((front + 1) % n) v) ((front + 1) % n) back q := by
  have hlen := h.length_lt
  rw [List.length_cons] at hlen
  refine ⟨Nat.mod_lt _ (by omega), by omega, ?_, fun i hi => ?_⟩
  · rw [h.back_eq, Nat.mod_add_mod, List.length_cons, Nat.add_assoc, Nat.add_comm 1]
  · have hslot := h.slot_eq (i + 1) (by rw [List.length_cons]; omega)
    have hplace : ((front + 1) % n + 1 + i) % n = (front + 1 + (i + 1)) % n := by
      rw [Nat.add_assoc, Nat.mod_add_mod, Nat.add_comm 1 i]
    have hne : (front + 1 + (i + 1)) % n ≠ (front + 1) % n :=
      (add_mod_ne (a := front + 1) (i := 0) (j := i + 1) (by omega) (by omega)).symm
    rw [hplace, Function.update_of_ne hne, hslot, List.getElem_cons_succ]

/-- An element is put into the slot after the newest. -/
theorem snoc (h : Holds n slots front back q) (hroom : q.length + 1 < n) (x : α) :
    Holds n (Function.update slots ((back + 1) % n) x) front ((back + 1) % n) (q ++ [x]) := by
  have hnext : (back + 1) % n = (front + 1 + q.length) % n := by
    rw [h.back_eq, Nat.mod_add_mod]
    congr 1
    omega
  refine ⟨h.front_lt, by simpa using hroom, ?_, fun i hi => ?_⟩
  · rw [hnext, List.length_append, List.length_singleton]
    congr 1
    omega
  · rw [List.length_append, List.length_singleton] at hi
    rw [hnext]
    rcases Nat.lt_or_eq_of_le (Nat.le_of_lt_succ hi) with hold | rfl
    · have hne : (front + 1 + i) % n ≠ (front + 1 + q.length) % n :=
        add_mod_ne hold (by omega)
      rw [Function.update_of_ne hne, h.slot_eq i hold, List.getElem_append_left hold]
    · rw [Function.update_self, List.getElem_concat_length rfl]

end Holds

/-! ### Overwriting the oldest -/

/-- An element comes into a queue that may hold fewer than `n`. -/
def push (n : ℕ) (q : List α) (x : α) : List α :=
  if q.length + 1 = n then q.tail ++ [x] else q ++ [x]

theorem map_push {β : Type*} (f : α → β) (n : ℕ) (q : List α) (x : α) :
    (push n q x).map f = push n (q.map f) (f x) := by
  unfold push
  rw [List.length_map]
  split_ifs with hfull
  · rw [List.map_append, List.map_tail, List.map_singleton]
  · rw [List.map_append, List.map_singleton]

/-- The newest elements of a queue and one more. -/
theorem push_rtake (hn : 0 < n) (xs : List α) (x : α) :
    push (n + 1) (xs.rtake n) x = (xs ++ [x]).rtake n := by
  have hlen : (xs.rtake n).length = min n xs.length := by
    unfold List.rtake
    rw [List.length_drop]
    omega
  unfold push
  rw [hlen]
  unfold List.rtake
  rw [List.length_append, List.length_singleton]
  split_ifs with hfull
  · rw [List.tail_drop, List.drop_append_of_le_length (by omega)]
    congr 2
    omega
  · rw [List.drop_append_of_le_length (by omega)]
    congr 2
    omega

end Mvr.Ring
