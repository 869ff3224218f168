import Mathlib.Logic.Function.Basic

/-!
# Partial functions that invert each other

A table of owners and the key each owner keeps agree when `f` and `g` are `Inverse`: `b` stands
under the key `a` exactly if `b` keeps the key `a`.  A free key may be given to an owner without one
(`Inverse.insert`), and an owner may give its key back (`Inverse.erase`) or change it
(`Inverse.move`).  To give away a key that is taken, or to forget an owner alone, breaks the
agreement (`Inverse.not_insert`, `Inverse.not_forget`).
-/

namespace Mvr

variable {α β : Type*}

/-- The two partial functions invert each other. -/
def Inverse (f : α → Option β) (g : β → Option α) : Prop := ∀ a b, f a = some b ↔ g b = some a

namespace Inverse

variable [DecidableEq α] [DecidableEq β] {f : α → Option β} {g : β → Option α} {a : α} {b : β}

theorem insert (h : Inverse f g) (ha : f a = none) (hb : g b = none) :
    Inverse (Function.update f a (some b)) (Function.update g b (some a)) := by
  intro a' b'
  rcases eq_or_ne a' a with rfl | hne
  · rw [Function.update_self]
    rcases eq_or_ne b' b with rfl | hne'
    · rw [Function.update_self]
      exact iff_of_true rfl rfl
    · -- the key was free, so no other owner keeps it
      rw [Function.update_of_ne hne', ← h, ha]
      exact iff_of_false (fun heq => hne' (Option.some.inj heq).symm) (by simp)
  · rw [Function.update_of_ne hne, h]
    rcases eq_or_ne b' b with rfl | hne'
    · rw [Function.update_self, hb]
      exact iff_of_false (by simp) fun heq => hne (Option.some.inj heq).symm
    · rw [Function.update_of_ne hne']

theorem erase (h : Inverse f g) (hab : f a = some b) :
    Inverse (Function.update f a none) (Function.update g b none) := by
  intro a' b'
  rcases eq_or_ne a' a with rfl | hne
  · rw [Function.update_self]
    rcases eq_or_ne b' b with rfl | hne'
    · rw [Function.update_self]
      exact iff_of_false (by simp) (by simp)
    · rw [Function.update_of_ne hne', ← h, hab]
      exact iff_of_false (by simp) fun heq => hne' (Option.some.inj heq).symm
  · rw [Function.update_of_ne hne, h]
    rcases eq_or_ne b' b with rfl | hne'
    · rw [Function.update_self, (h _ _).mp hab]
      exact iff_of_false (fun heq => hne (Option.some.inj heq).symm) (by simp)
    · rw [Function.update_of_ne hne']

/-- An owner changes to a free key. -/
theorem move (h : Inverse f g) (hab : f a = some b) {a' : α} (ha' : f a' = none) :
    Inverse (Function.update (Function.update f a none) a' (some b))
      (Function.update g b (some a')) := by
  have hfree : Function.update f a none a' = none := by
    rcases eq_or_ne a' a with rfl | hne
    · exact Function.update_self ..
    · rw [Function.update_of_ne hne, ha']
  have hinsert := (h.erase hab).insert hfree (Function.update_self ..)
  rwa [Function.update_idem] at hinsert

/-- A key that is given away twice is lost to its first owner. -/
theorem not_insert (h : Inverse f g) {b' : β} (hab : f a = some b') (hne : b' ≠ b)
    (g' : Option α) : ¬ Inverse (Function.update f a (some b)) (Function.update g b g') := by
  intro h'
  have hold := (h' a b').mpr (by rw [Function.update_of_ne hne]; exact (h a b').mp hab)
  rw [Function.update_self] at hold
  exact hne (Option.some.inj hold).symm

omit [DecidableEq α] in
/-- The key of an owner that is forgotten still leads to it. -/
theorem not_forget (h : Inverse f g) (hba : g b = some a) :
    ¬ Inverse f (Function.update g b none) := by
  intro h'
  have hkey := (h' a b).mp ((h a b).mpr hba)
  rw [Function.update_self] at hkey
  cases hkey

end Inverse

end Mvr
