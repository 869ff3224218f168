import Mvr.Lts.Basic

/-!
# Simulations of runs

A component of a system takes part in some of the system's steps.  If `state` reads the component
off the system's state and `label` the component's label off a step's label, none for a step the
component has no part in, then the runs of the system project to runs of the component:
`Run.project`.  What was proved of the component alone then holds of it in the system.
-/

namespace Mvr.Run

variable {S L S' L' : Type*} {step : S → L → S → Prop} {step' : S' → L' → S' → Prop}

/-- A step of the system, seen from the component: a step of its own, or none. -/
def Projects (step' : S' → L' → S' → Prop) (state : S → S') (label : L → Option L') (s : S) (l : L)
    (s₁ : S) : Prop :=
  (label l).elim (state s₁ = state s) fun l' => step' (state s) l' (state s₁)

/-- A run of the system is a run of the component. -/
theorem project {state : S → S'} {label : L → Option L'} {s₀ s : S} {tr : List L}
    (hstep : ∀ s l s₁, step s l s₁ → Projects step' state label s l s₁)
    (h : Run step s₀ tr s) : Run step' (state s₀) (tr.filterMap label) (state s) := by
  induction h with
  | nil => exact nil
  | @snoc tr s s₁ l h hs ih =>
    have hproj := hstep s l s₁ hs
    unfold Projects at hproj
    rw [List.filterMap_append]
    cases hlabel : label l with
    | none =>
      rw [hlabel, Option.elim_none] at hproj
      rw [hproj]
      simpa [hlabel] using ih
    | some l' =>
      rw [hlabel, Option.elim_some] at hproj
      simpa [hlabel] using snoc ih hproj

end Mvr.Run
