import Mvr.Lts.Basic
import Mathlib.Tactic.Common

/-!
# Resources that are handed out and given back

A trace of `acquire`, `use` and `release` events is replayed over the list of the resources that are
held: a resource is acquired only while it is free, and used and released only while it is held.
`replay` is `none` as soon as an event breaks this rule.  A trace is `Balanced` when it can be
replayed from nothing and leaves nothing held, so that every acquisition is followed by exactly one
release.

Balanced traces follow one another (`balanced_append_iff`), and a broken rule stays broken
(`replay_append_eq_none`).  So a loop each of whose iterations is balanced or breaks the rule is
balanced after exactly the runs without an iteration of the second kind: `balanced_iff_of_run`.
-/

namespace Mvr.Ledger

/-- What happens to a resource. -/
inductive Event (R : Type*) where
  | acquire (r : R)
  | use (r : R)
  | release (r : R)
  deriving DecidableEq, Repr

variable {R : Type*} [DecidableEq R]

/-- The resources held after an event, `none` if the event is not allowed. -/
def post (held : List R) : Event R → Option (List R)
  | .acquire r => if r ∈ held then none else some (r :: held)
  | .use r => if r ∈ held then some held else none
  | .release r => if r ∈ held then some (held.erase r) else none

/-- The resources held after a trace, `none` if an event of it is not allowed. -/
def replay (held : List R) (tr : List (Event R)) : Option (List R) := tr.foldlM post held

/-- The trace breaks no rule and leaves nothing held. -/
def Balanced (tr : List (Event R)) : Prop := replay [] tr = some []

instance (tr : List (Event R)) : Decidable (Balanced tr) := by
  unfold Balanced
  infer_instance

@[simp] theorem replay_nil (held : List R) : replay held [] = some held := rfl

@[simp] theorem replay_cons (held : List R) (e : Event R) (tr : List (Event R)) :
    replay held (e :: tr) = (post held e).bind fun h => replay h tr := rfl

theorem replay_append (held : List R) (tr tr' : List (Event R)) :
    replay held (tr ++ tr') = (replay held tr).bind fun h => replay h tr' :=
  List.foldlM_append

@[simp] theorem balanced_nil : Balanced ([] : List (Event R)) := rfl

/-- After a balanced trace the ledger starts afresh. -/
theorem balanced_append_iff {tr tr' : List (Event R)} (h : Balanced tr) :
    Balanced (tr ++ tr') ↔ Balanced tr' := by
  unfold Balanced at h ⊢
  rw [replay_append, h]
  rfl

/-- A broken rule stays broken. -/
theorem replay_append_eq_none {tr : List (Event R)} (h : replay [] tr = none)
    (tr' : List (Event R)) : replay [] (tr ++ tr') = none := by
  rw [replay_append, h]
  rfl

/-! ### Many resources at once -/

/-- Free resources are acquired one after the other. -/
theorem replay_acquire_all {l held : List R} (h : (l.reverse ++ held).Nodup) :
    replay held (l.map .acquire) = some (l.reverse ++ held) := by
  induction l generalizing held with
  | nil => rfl
  | cons r l ih =>
    rw [List.reverse_cons, List.append_assoc, List.singleton_append] at h
    have hfree : r ∉ held := by
      have htail := (List.nodup_append.mp h).2.1
      exact (List.nodup_cons.mp htail).1
    have hpost : post held (.acquire r) = some (r :: held) := if_neg hfree
    rw [List.map_cons, replay_cons, hpost, Option.bind_some, ih h, List.reverse_cons,
      List.append_assoc, List.singleton_append]

/-- Held resources are released in the order in which they were acquired. -/
theorem replay_release_all {l rest : List R} (h : (l ++ rest).Nodup) :
    replay (l ++ rest).reverse (l.map .release) = some rest.reverse := by
  induction l with
  | nil => rfl
  | cons r l ih =>
    rw [List.cons_append, List.nodup_cons] at h
    have herase : ((l ++ rest).reverse ++ [r]).erase r = (l ++ rest).reverse := by
      rw [List.erase_append_right _ (by rw [List.mem_reverse]; exact h.1), List.erase_cons_head,
        List.append_nil]
    have hpost : post ((r :: (l ++ rest)).reverse) (.release r) = some (l ++ rest).reverse := by
      rw [List.reverse_cons]
      exact (if_pos (by simp)).trans (congrArg some herase)
    rw [List.map_cons, replay_cons, List.cons_append, hpost, Option.bind_some, ih h.2]

/-- A held resource is used any number of times. -/
theorem replay_use_all {r : R} {held : List R} (hr : r ∈ held) {us : List (Event R)}
    (hus : ∀ e ∈ us, e = .use r) : replay held us = some held := by
  induction us with
  | nil => rfl
  | cons e us ih =>
    have hpost : post held (.use r) = some held := if_pos hr
    rw [hus e (List.mem_cons_self ..), replay_cons, hpost, Option.bind_some,
      ih fun e' he' => hus e' (List.mem_cons_of_mem _ he')]

/-- The event acquires a resource. -/
def Event.isAcquire : Event R → Bool
  | .acquire _ => true
  | _ => false

/-- No more is held than was acquired. -/
theorem length_le_of_replay {tr : List (Event R)} {held held' : List R}
    (h : replay held tr = some held') : held'.length ≤ held.length + tr.countP Event.isAcquire := by
  induction tr generalizing held with
  | nil =>
    cases h
    simp
  | cons e tr ih =>
    rw [replay_cons, Option.bind_eq_some_iff] at h
    obtain ⟨mid, hpost, htr⟩ := h
    have hmid := ih htr
    rw [List.countP_cons]
    cases e with
    | acquire r =>
      unfold post at hpost
      dsimp only at hpost
      split_ifs at hpost
      cases hpost
      rw [List.length_cons] at hmid
      simp only [Event.isAcquire, if_true]
      omega
    | use r =>
      unfold post at hpost
      dsimp only at hpost
      split_ifs at hpost
      cases hpost
      omega
    | release r =>
      unfold post at hpost
      dsimp only at hpost
      split_ifs at hpost
      cases hpost
      have hle := List.length_erase_le (a := r) (l := held)
      omega

/-! ### Loops -/

/-- A loop whose good iterations are balanced and whose bad ones break the rule is balanced after
exactly the runs of good iterations. -/
theorem balanced_iff_of_run {S L : Type*} {step : S → L → S → Prop} {s₀ s : S} {tr : List L}
    (events : S → List (Event R)) (Good : L → Prop) (h₀ : events s₀ = [])
    (hstep : ∀ s l s', step s l s' → ∃ evs, events s' = events s ++ evs ∧
      (Good l → Balanced evs) ∧ (¬ Good l → replay [] evs = none))
    (h : Run step s₀ tr s) : Balanced (events s) ↔ ∀ l ∈ tr, Good l := by
  -- a run is balanced without a bad iteration, or broken for good
  have hinv : (Balanced (events s) ∧ ∀ l ∈ tr, Good l) ∨
      (replay [] (events s) = none ∧ ∃ l ∈ tr, ¬ Good l) := by
    refine h.invariant (fun tr s => (Balanced (events s) ∧ ∀ l ∈ tr, Good l) ∨
      (replay [] (events s) = none ∧ ∃ l ∈ tr, ¬ Good l)) ?_ ?_
    · left
      rw [h₀]
      exact ⟨balanced_nil, by simp⟩
    · intro tr s l s' _ ih hs
      obtain ⟨evs, hevs, hgood, hbad⟩ := hstep s l s' hs
      rcases ih with ⟨hbal, hall⟩ | ⟨hbroken, l', hl', hnot⟩
      · by_cases hl : Good l
        · left
          rw [hevs, balanced_append_iff hbal]
          refine ⟨hgood hl, fun l' hl' => ?_⟩
          rcases List.mem_append.mp hl' with hmem | hmem
          · exact hall l' hmem
          · rw [List.mem_singleton.mp hmem]
            exact hl
        · right
          refine ⟨?_, l, by simp, hl⟩
          unfold Balanced at hbal
          rw [hevs, replay_append, hbal]
          exact hbad hl
      · right
        rw [hevs]
        exact ⟨replay_append_eq_none hbroken evs, l', List.mem_append_left _ hl', hnot⟩
  rcases hinv with ⟨hbal, hall⟩ | ⟨hbroken, l, hl, hnot⟩
  · exact iff_of_true hbal hall
  · refine iff_of_false (fun hbal => ?_) fun hall => hnot (hall l hl)
    unfold Balanced at hbal
    rw [hbroken] at hbal
    cases hbal

end Mvr.Ledger
