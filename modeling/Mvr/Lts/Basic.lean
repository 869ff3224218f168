import Mathlib.Tactic.Common

/-!
# Runs of a labelled step relation

`Run step s₀ tr s` says that the labels `tr`, in order, lead from `s₀` to `s`.  The trace grows at
its end, so that an invariant may relate the state to the whole history: `Run.invariant` proves
such an invariant from one step, `Run.stateInvariant` is the case that ignores the history.

Where the labels determine the states, a property may hold `Always` along a run, and a condition may
hold of `Each` of its steps.  If the steps that keep the property are those of the condition, the
one is as good as the other: `Run.always_iff_each`.
-/

namespace Mvr

variable {S L : Type*}

/-- The runs from a state, with their traces. -/
inductive Run (step : S → L → S → Prop) (s₀ : S) : List L → S → Prop
  | nil : Run step s₀ [] s₀
  | snoc {tr : List L} {s s' : S} {l : L} (h : Run step s₀ tr s) (hs : step s l s') :
      Run step s₀ (tr ++ [l]) s'

namespace Run

variable {step : S → L → S → Prop} {s₀ s s' : S} {tr : List L} {l : L}

/-- A property of the history and the state that holds at the start and survives every step holds
after every run. -/
theorem invariant (P : List L → S → Prop) (h₀ : P [] s₀)
    (hstep : ∀ tr s l s', Run step s₀ tr s → P tr s → step s l s' → P (tr ++ [l]) s')
    (h : Run step s₀ tr s) : P tr s := by
  induction h with
  | nil => exact h₀
  | snoc h hs ih => exact hstep _ _ _ _ h ih hs

/-- A property of the state that holds at the start and survives every step holds after every
run. -/
theorem stateInvariant (I : S → Prop) (h₀ : I s₀) (hstep : ∀ s l s', I s → step s l s' → I s')
    (h : Run step s₀ tr s) : I s :=
  h.invariant (fun _ => I) h₀ fun _ s l s' _ hI hs => hstep s l s' hI hs

/-- A run may start with a step. -/
theorem cons (hs : step s₀ l s) (h : Run step s tr s') : Run step s₀ (l :: tr) s' := by
  induction h with
  | nil => exact snoc nil hs
  | snoc _ hs' ih => exact snoc ih hs'

theorem append_singleton_iff :
    Run step s₀ (tr ++ [l]) s' ↔ ∃ s, Run step s₀ tr s ∧ step s l s' := by
  constructor
  · intro h
    generalize htr : tr ++ [l] = tr' at h
    cases h with
    | nil => simp at htr
    | snoc h hs =>
      obtain ⟨rfl, hl⟩ := List.append_inj' htr rfl
      obtain rfl := List.singleton_inj.mp hl
      exact ⟨_, h, hs⟩
  · rintro ⟨s, h, hs⟩
    exact snoc h hs

/-- The labels determine the states. -/
def Deterministic (step : S → L → S → Prop) : Prop :=
  ∀ s l s₁ s₂, step s l s₁ → step s l s₂ → s₁ = s₂

theorem unique (hdet : Deterministic step) (h : Run step s₀ tr s) (h' : Run step s₀ tr s') :
    s = s' := by
  induction h generalizing s' with
  | nil =>
    generalize htr : ([] : List L) = tr' at h'
    cases h' with
    | nil => rfl
    | snoc _ _ => simp at htr
  | snoc _ hs ih =>
    obtain ⟨mid, hrun, hs'⟩ := append_singleton_iff.mp h'
    obtain rfl := ih hrun
    exact hdet _ _ _ _ hs hs'

/-- The property holds in every state of the runs with these labels. -/
def Always (step : S → L → S → Prop) (s₀ : S) (P : List L → S → Prop) (tr : List L) : Prop :=
  ∀ tr' s, tr' <+: tr → Run step s₀ tr' s → P tr' s

/-- The condition holds of every step of the runs with these labels. -/
def Each (step : S → L → S → Prop) (s₀ : S) (C : S → L → Prop) (tr : List L) : Prop :=
  ∀ tr' l s, tr' ++ [l] <+: tr → Run step s₀ tr' s → C s l

/-- A condition on the labels alone holds of each step if it holds of every label. -/
theorem each_iff_forall_mem {C : L → Prop} (h : Run step s₀ tr s) :
    Each step s₀ (fun _ l => C l) tr ↔ ∀ l ∈ tr, C l := by
  induction h with
  | nil =>
    refine iff_of_true (fun tr' l s' hpre => ?_) (by simp)
    simp at hpre
  | @snoc tr s s' l h hs ih =>
    constructor
    · intro heach l' hl'
      rcases List.mem_append.mp hl' with hold | hnew
      · apply ih.mp _ l' hold
        intro tr' l'' s'' hpre
        exact heach tr' l'' s'' (hpre.trans (List.prefix_append ..))
      · rw [List.mem_singleton.mp hnew]
        exact heach tr l s List.prefix_rfl h
    · intro hall tr' l' s'' hpre _
      apply hall l'
      exact hpre.subset (List.mem_append_right _ (List.mem_singleton.mpr rfl))

/-- A property that holds at the start, and that exactly the steps of a condition preserve, holds
always along exactly the runs all of whose steps meet the condition. -/
theorem always_iff_each (hdet : Deterministic step) (P : List L → S → Prop) (C : S → L → Prop)
    (h₀ : P [] s₀) (hstep : ∀ tr s l s', Run step s₀ tr s → P tr s → step s l s' →
      (P (tr ++ [l]) s' ↔ C s l)) (h : Run step s₀ tr s) :
    Always step s₀ P tr ↔ Each step s₀ C tr := by
  induction h with
  | nil =>
    refine iff_of_true (fun tr' s' hpre hrun => ?_) fun tr' l s' hpre => ?_
    · obtain rfl := List.prefix_nil.mp hpre
      rwa [← unique hdet nil hrun]
    · simp at hpre
  | @snoc tr s s' l h hs ih =>
    have hnow : P tr s → (P (tr ++ [l]) s' ↔ C s l) := fun hP => hstep tr s l s' h hP hs
    constructor
    · intro halways
      have hbefore : Always step s₀ P tr := fun tr' s'' hpre =>
        halways tr' s'' (hpre.trans (List.prefix_append ..))
      intro tr' l' s'' hpre hrun
      rcases List.prefix_concat_iff.mp hpre with heq | hpre
      · -- the last step
        obtain ⟨rfl, hl⟩ := List.append_inj' heq rfl
        obtain rfl := List.singleton_inj.mp hl
        obtain rfl := unique hdet h hrun
        exact (hnow (hbefore _ _ List.prefix_rfl h)).mp
          (halways _ _ List.prefix_rfl (snoc h hs))
      · exact ih.mp hbefore tr' l' s'' hpre hrun
    · intro heach
      have hbefore : Always step s₀ P tr := ih.mpr fun tr' l' s'' hpre =>
        heach tr' l' s'' (hpre.trans (List.prefix_append ..))
      intro tr' s'' hpre hrun
      rcases List.prefix_concat_iff.mp hpre with rfl | hpre
      · obtain rfl := unique hdet (snoc h hs) hrun
        exact (hnow (hbefore _ _ List.prefix_rfl h)).mpr (heach _ _ _ List.prefix_rfl h)
      · exact hbefore tr' s'' hpre hrun

end Run

end Mvr
