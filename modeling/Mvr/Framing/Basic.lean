import Mathlib.Data.List.Forall2
import Mathlib.Tactic.Common

/-!
# Frames on a stream

Frames are put on a stream one after the other.  The stream holds `Whole` frames if each frame has
contributed itself or nothing, and the stream has at all times been made of the contributions so
far.  What the frames contribute is determined by the stream (`eq_of_flatten_take_eq`), so that a
stream made of known contributions holds whole frames exactly when each of these is its frame or
nothing: `whole_iff`.
-/

namespace Mvr.Framing

variable {α : Type*}

/-- `stream n`, the stream after the first `n` frames, is made of whole frames for every `n`. -/
def Whole (frames : List (List α)) (stream : ℕ → List α) : Prop :=
  ∃ parts : List (List α), List.Forall₂ (fun frame part => part = frame ∨ part = []) frames parts ∧
    ∀ n ≤ frames.length, stream n = (parts.take n).flatten

/-- Lists of contributions that make the same stream at all times are equal. -/
theorem eq_of_flatten_take_eq {parts parts' : List (List α)} (hlen : parts.length = parts'.length)
    (h : ∀ n ≤ parts.length, (parts.take n).flatten = (parts'.take n).flatten) :
    parts = parts' := by
  induction parts generalizing parts' with
  | nil => exact (List.eq_nil_of_length_eq_zero hlen.symm).symm
  | cons p parts ih =>
    cases parts' with
    | nil => cases hlen
    | cons p' parts' =>
      rw [List.length_cons, List.length_cons, Nat.add_right_cancel_iff] at hlen
      have hhead : p = p' := by
        have hone := h 1 (by simp)
        simpa using hone
      subst hhead
      congr 1
      refine ih hlen fun n hn => ?_
      have hsucc := h (n + 1) (by simpa using hn)
      rw [List.take_succ_cons, List.take_succ_cons, List.flatten_cons, List.flatten_cons] at hsucc
      exact List.append_cancel_left hsucc

/-- A stream holds whole frames exactly when every contribution is its frame or nothing. -/
theorem whole_iff {frames : List (List α)} (parts : List (List α))
    (hlen : parts.length = frames.length) {stream : ℕ → List α}
    (h : ∀ n ≤ frames.length, stream n = (parts.take n).flatten) :
    Whole frames stream ↔
      List.Forall₂ (fun frame part => part = frame ∨ part = []) frames parts := by
  constructor
  · rintro ⟨parts', hparts', hstream⟩
    have heq : parts = parts' := by
      refine eq_of_flatten_take_eq (hlen.trans hparts'.length_eq) fun n hn => ?_
      rw [hlen] at hn
      rw [← h n hn, hstream n hn]
    rw [heq]
    exact hparts'
  · intro hparts
    exact ⟨parts, hparts, h⟩

end Mvr.Framing
