import Mathlib.Data.List.Forall2
import Mvr.Checked.Basic

/-!
# Sequential objects

An object answers one call after the other.  An implementation may fault (`run`), a specification is
a function of the calls (`spec`).  The implementation `Refines` the specification if every call that
means a call of the specification returns, keeps the relation between the states, and gives the
answer of the specification; then it does so over whole sequences of calls (`Refines.run_eq_ok`).
What every call preserves holds after any sequence that returns (`run_preserves`).
-/

namespace Mvr.Sequential

variable {σ τ ι κ ο ω : Type}

/-- The state after a sequence of calls, and the answers to them. -/
def run (f : σ → ι → Checked (σ × ο)) (s : σ) : List ι → Checked (σ × List ο)
  | [] => pure (s, [])
  | i :: is => do
    let (s, o) ← f s i
    let (s, os) ← run f s is
    pure (s, o :: os)

/-- The specified state after a sequence of calls, and the specified answers. -/
def spec (g : τ → κ → τ × ω) (t : τ) : List κ → τ × List ω
  | [] => (t, [])
  | k :: ks => ((spec g (g t k).1 ks).1, (g t k).2 :: (spec g (g t k).1 ks).2)

/-- Each call of the implementation does what the call it means is specified to do. -/
def Refines (f : σ → ι → Checked (σ × ο)) (g : τ → κ → τ × ω) (Holds : σ → τ → Prop)
    (Means : ι → κ → Prop) (Answers : ο → ω → Prop) : Prop :=
  ∀ s t i k, Holds s t → Means i k →
    ∃ s' o, f s i = .ok (s', o) ∧ Holds s' (g t k).1 ∧ Answers o (g t k).2

theorem run_cons (f : σ → ι → Checked (σ × ο)) (s : σ) (i : ι) (is : List ι) :
    run f s (i :: is) = (do
      let (s, o) ← f s i
      let (s, os) ← run f s is
      pure (s, o :: os)) := rfl

theorem run_cons_eq_ok {f : σ → ι → Checked (σ × ο)} {s s' : σ} {i : ι} {is : List ι}
    {os : List ο} : run f s (i :: is) = .ok (s', os) ↔
      ∃ s₁ o os', f s i = .ok (s₁, o) ∧ run f s₁ is = .ok (s', os') ∧ os = o :: os' := by
  rw [run_cons, Checked.bind_eq_ok]
  constructor
  · rintro ⟨⟨s₁, o⟩, hf, hrest⟩
    obtain ⟨⟨s₂, os'⟩, hrun, hpure⟩ := Checked.bind_eq_ok.mp hrest
    obtain ⟨rfl, rfl⟩ := Prod.mk.inj (Except.ok.inj hpure)
    exact ⟨s₁, o, os', hf, hrun, rfl⟩
  · rintro ⟨s₁, o, os', hf, hrun, rfl⟩
    exact ⟨(s₁, o), hf, Checked.bind_eq_ok.mpr ⟨(s', os'), hrun, rfl⟩⟩

/-- A refinement holds over whole sequences of calls. -/
theorem Refines.run_eq_ok {f : σ → ι → Checked (σ × ο)} {g : τ → κ → τ × ω}
    {Holds : σ → τ → Prop} {Means : ι → κ → Prop} {Answers : ο → ω → Prop}
    (h : Refines f g Holds Means Answers) {is : List ι} {ks : List κ}
    (hmeans : List.Forall₂ Means is ks) {s : σ} {t : τ} (hst : Holds s t) :
    ∃ s' os, run f s is = .ok (s', os) ∧ Holds s' (spec g t ks).1 ∧
      List.Forall₂ Answers os (spec g t ks).2 := by
  induction hmeans generalizing s t with
  | nil => exact ⟨s, [], rfl, hst, .nil⟩
  | @cons i k is ks hik _ ih =>
    obtain ⟨s₁, o, hf, hst₁, ho⟩ := h s t i k hst hik
    obtain ⟨s', os, hrun, hst', hos⟩ := ih hst₁
    exact ⟨s', o :: os, run_cons_eq_ok.mpr ⟨s₁, o, os, hf, hrun, rfl⟩, hst', .cons ho hos⟩

/-- What every call preserves holds after a sequence of calls, and what holds of every answer holds
of all of them. -/
theorem run_preserves {f : σ → ι → Checked (σ × ο)} (P : σ → Prop) (Q : ο → Prop)
    (hstep : ∀ s i s' o, P s → f s i = .ok (s', o) → P s' ∧ Q o) {s s' : σ} {is : List ι}
    {os : List ο} (hs : P s) (h : run f s is = .ok (s', os)) : P s' ∧ ∀ o ∈ os, Q o := by
  induction is generalizing s os with
  | nil =>
    obtain ⟨rfl, rfl⟩ := Prod.mk.inj (Except.ok.inj h)
    exact ⟨hs, fun o ho => absurd ho List.not_mem_nil⟩
  | cons i is ih =>
    obtain ⟨s₁, o, os', hf, hrun, rfl⟩ := run_cons_eq_ok.mp h
    obtain ⟨hs₁, ho⟩ := hstep s i s₁ o hs hf
    obtain ⟨hs', hos⟩ := ih hs₁ hrun
    refine ⟨hs', fun o' ho' => ?_⟩
    rcases List.mem_cons.mp ho' with rfl | hmem
    · exact ho
    · exact hos o' hmem

end Mvr.Sequential
