import Mvr.Ledger.Basic

/-!
# Start-up ladders

A start-up makes its calls one after the other and leaves at the first one that fails, by a label
that stops what was started so far.  A `Step` is a call of such a ladder: the resource it starts,
the resources its label stops, and whether its return code becomes that of the whole.

A ladder is `Clean` if it reports success exactly when every call succeeds, and otherwise leaves
nothing started and stops nothing else.  That depends on the first call that fails alone:
`clean_iff_undoesFirst`.
-/

namespace Mvr.Ladder

open Ledger (Event Balanced replay)

/-- A call of a start-up. -/
structure Step (R : Type*) where
  starts : Option R
  /-- What is stopped when the call fails, in this order. -/
  stops : List R
  /-- The code of a failure is returned. -/
  reports : Bool

variable {R : Type*}

/-- The return code of the start-up, and what it starts and stops.  Each step comes with the code of
its call; 0 is success. -/
def run : List (Step R × Int32) → Int32 × List (Event R)
  | [] => (0, [])
  | (s, code) :: rest =>
    if code ≠ 0 then (if s.reports then code else 0, s.stops.map .release)
    else ((run rest).1, s.starts.toList.map .acquire ++ (run rest).2)

theorem run_cons_of_failure (s : Step R) {code : Int32} (h : code ≠ 0)
    (rest : List (Step R × Int32)) :
    run ((s, code) :: rest) = (if s.reports then code else 0, s.stops.map .release) := if_pos h

theorem run_cons_of_success (s : Step R) {code : Int32} (h : code = 0)
    (rest : List (Step R × Int32)) :
    run ((s, code) :: rest) = ((run rest).1, s.starts.toList.map .acquire ++ (run rest).2) :=
  if_neg (not_not.mpr h)

variable [DecidableEq R]

/-- A start-up that began with some resources held succeeds as a whole, or is undone and reported.
-/
structure Clean (held : List R) (steps : List (Step R × Int32)) : Prop where
  success_iff : (run steps).1 = 0 ↔ ∀ s ∈ steps, s.2 = 0
  undone : (¬ ∀ s ∈ steps, s.2 = 0) → replay held (run steps).2 = some []

/-- The label of a step stops what is held, and its code is returned. -/
def Undoes (held : List R) (s : Step R) : Prop :=
  s.reports = true ∧ replay held (s.stops.map .release) = some []

instance (held : List R) (s : Step R) : Decidable (Undoes held s) := by
  unfold Undoes
  infer_instance

/-- The first call that fails, if any, is undone. -/
def UndoesFirst (held : List R) : List (Step R × Int32) → Prop
  | [] => True
  | (s, code) :: rest =>
    if code ≠ 0 then Undoes held s else UndoesFirst (s.starts.toList ++ held) rest

/-- Every step starts what is not held yet. -/
def StartsFresh (held : List R) : List (Step R × Int32) → Prop
  | [] => True
  | (s, _) :: rest => (∀ r ∈ s.starts, r ∉ held) ∧ StartsFresh (s.starts.toList ++ held) rest

theorem replay_starts {held : List R} {s : Step R} (h : ∀ r ∈ s.starts, r ∉ held)
    (evs : List (Event R)) :
    replay held (s.starts.toList.map .acquire ++ evs) = replay (s.starts.toList ++ held) evs := by
  cases hs : s.starts with
  | none => rfl
  | some r =>
    have hpost : Ledger.post held (.acquire r) = some (r :: held) := if_neg (h r hs)
    rw [Ledger.replay_append, Option.toList_some, List.map_cons, List.map_nil, Ledger.replay_cons,
      hpost]
    rfl

/-- The first call that fails decides. -/
theorem clean_iff_undoesFirst {held : List R} {steps : List (Step R × Int32)}
    (h : StartsFresh held steps) : Clean held steps ↔ UndoesFirst held steps := by
  induction steps generalizing held with
  | nil =>
    refine iff_of_true ⟨iff_of_true rfl (by simp), fun hnot => absurd (by simp) hnot⟩ trivial
  | cons step rest ih =>
    obtain ⟨s, code⟩ := step
    obtain ⟨hfresh, hrest⟩ := h
    unfold UndoesFirst
    by_cases hcode : code ≠ 0
    · -- the call fails
      have hall : ¬ ∀ s' ∈ (s, code) :: rest, s'.2 = 0 := fun hall =>
        hcode (hall _ (List.mem_cons_self ..))
      have hrun := run_cons_of_failure s hcode rest
      rw [if_pos hcode]
      constructor
      · intro hclean
        refine ⟨?_, ?_⟩
        · by_contra hnot
          refine hall (hclean.success_iff.mp ?_)
          rw [hrun]
          exact if_neg hnot
        · have hundone := hclean.undone hall
          rwa [hrun] at hundone
      · rintro ⟨hreports, hreplay⟩
        refine ⟨iff_of_false ?_ hall, fun _ => ?_⟩
        · rw [hrun, if_pos hreports]
          exact hcode
        · rw [hrun]
          exact hreplay
    · -- the call succeeds
      have hzero : code = 0 := not_not.mp hcode
      have hrun := run_cons_of_success s hzero rest
      have hall : (∀ s' ∈ (s, code) :: rest, s'.2 = 0) ↔ ∀ s' ∈ rest, s'.2 = 0 := by
        rw [List.forall_mem_cons]
        exact and_iff_right hzero
      rw [if_neg hcode, ← ih hrest]
      constructor
      · rintro ⟨hsuccess, hundone⟩
        rw [hrun, hall] at hsuccess
        refine ⟨hsuccess, fun hnot => ?_⟩
        have hreplay := hundone (mt hall.mp hnot)
        rwa [hrun, replay_starts hfresh] at hreplay
      · rintro ⟨hsuccess, hundone⟩
        refine ⟨?_, fun hnot => ?_⟩
        · rw [hrun, hall]
          exact hsuccess
        · rw [hrun, replay_starts hfresh]
          exact hundone (mt hall.mpr hnot)

end Mvr.Ladder
