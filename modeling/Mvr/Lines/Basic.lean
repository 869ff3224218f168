import Mathlib.Data.List.TakeWhile
import Mathlib.Tactic.Common

/-!
# Lines read into a buffer

A file is a list of characters.  `unlines` writes lines to it, each with a delimiter behind it, and
`readLines room` reads it into a buffer that holds `room` characters, one line after the other,
until a line does not fit: so it reads the lines of the file up to the first that is too long
(`readLines_eq_takeWhile`), and these are the lines that were written (`lines_unlines`).

If the lines were written in an order, those that are read are the ones before and including which
every line fits (`mem_takeWhile_iff_of_pairwise`).
-/

namespace Mvr.Lines

variable {α : Type*}

/-- The lines, each with the delimiter behind it. -/
def unlines (delim : α) (lines : List (List α)) : List α :=
  lines.flatMap fun line => line ++ [delim]

variable [DecidableEq α]

/-- The next line, with what stands behind it: the characters up to the delimiter or the end of the
file.  It fails at the end of the file, and if the line is longer than the buffer. -/
def getline (delim : α) (room : ℕ) (input : List α) : Option (List α × List α) :=
  let line := input.takeWhile (· ≠ delim)
  if input = [] ∨ room < line.length then none else some (line, input.drop (line.length + 1))

/-- The characters up to a delimiter. -/
theorem takeWhile_append_cons {delim : α} {l : List α} (h : delim ∉ l) (rest : List α) :
    (l ++ delim :: rest).takeWhile (· ≠ delim) = l := by
  have hall : ∀ c ∈ l, decide (c ≠ delim) = true := fun c hc => by
    rw [decide_eq_true_eq]
    rintro rfl
    exact h hc
  rw [List.takeWhile_append_of_pos hall, List.takeWhile_cons_of_neg (by simp), List.append_nil]

/-- A line is read if the file is not at its end and the line fits. -/
theorem getline_eq_some_iff {delim : α} {room : ℕ} {input line rest : List α} :
    getline delim room input = some (line, rest) ↔ input ≠ [] ∧
      line = input.takeWhile (· ≠ delim) ∧ line.length ≤ room ∧
        rest = input.drop (line.length + 1) := by
  unfold getline
  dsimp only
  split_ifs with hfail
  · refine iff_of_false (by simp) ?_
    rintro ⟨hne, rfl, hle, -⟩
    rcases hfail with hend | hlong
    · exact hne hend
    · omega
  · rw [not_or] at hfail
    rw [Option.some_inj, Prod.mk.injEq]
    constructor
    · rintro ⟨rfl, rfl⟩
      exact ⟨hfail.1, rfl, by omega, rfl⟩
    · rintro ⟨-, rfl, -, rfl⟩
      exact ⟨rfl, rfl⟩

theorem length_lt_of_getline {delim : α} {room : ℕ} {input line rest : List α}
    (h : getline delim room input = some (line, rest)) : rest.length < input.length := by
  obtain ⟨hne, -, -, rfl⟩ := getline_eq_some_iff.mp h
  have hpos := List.length_pos_iff.mpr hne
  rw [List.length_drop]
  omega

/-- `while (getline)`: the lines that are read. -/
def readLines (delim : α) (room : ℕ) (input : List α) : List (List α) :=
  match _h : getline delim room input with
  | none => []
  | some (line, rest) => line :: readLines delim room rest
termination_by input.length
decreasing_by exact length_lt_of_getline _h

/-- The lines of a file: no line is too long for a buffer with room for all of it. -/
def lines (delim : α) (input : List α) : List (List α) := readLines delim input.length input

variable {delim : α} {room : ℕ}

theorem readLines_of_none {input : List α} (h : getline delim room input = none) :
    readLines delim room input = [] := by
  rw [readLines]
  split
  · rfl
  · rename_i heq
    rw [h] at heq
    cases heq

theorem readLines_of_some {input line rest : List α}
    (h : getline delim room input = some (line, rest)) :
    readLines delim room input = line :: readLines delim room rest := by
  conv_lhs => rw [readLines]
  split
  · rename_i heq
    rw [h] at heq
    cases heq
  · rename_i heq
    rw [h] at heq
    cases heq
    rfl

/-- A line that is read fits, and has no delimiter in it. -/
theorem mem_readLines {line input : List α} (h : line ∈ readLines delim room input) :
    delim ∉ line ∧ line.length ≤ room := by
  induction input using readLines.induct delim room with
  | case1 input hget =>
    rw [readLines_of_none hget] at h
    cases h
  | case2 input first rest hget ih =>
    rw [readLines_of_some hget] at h
    rcases List.mem_cons.mp h with rfl | h
    · obtain ⟨-, rfl, hfits, -⟩ := getline_eq_some_iff.mp hget
      refine ⟨fun hmem => ?_, hfits⟩
      have hne := List.mem_takeWhile_imp hmem
      simp at hne
    · exact ih h

/-- Of the lines of a file those are read that stand before the first that does not fit. -/
theorem readLines_eq_takeWhile (delim : α) (room : ℕ) (input : List α) :
    readLines delim room input =
      (lines delim input).takeWhile fun line => line.length ≤ room := by
  suffices ∀ room', input.length ≤ room' → readLines delim room input =
      (readLines delim room' input).takeWhile fun line => line.length ≤ room from this _ le_rfl
  intro room' hroom
  induction input using readLines.induct delim room' with
  | case1 input hget =>
    -- only the end of the file fails in a buffer that is large enough
    have hnil : input = [] := by
      by_contra hne
      have hline : (input.takeWhile (· ≠ delim)).length ≤ input.length :=
        (List.takeWhile_sublist _).length_le
      rw [getline_eq_some_iff.mpr ⟨hne, rfl, hline.trans hroom, rfl⟩] at hget
      cases hget
    subst hnil
    rw [readLines_of_none hget, List.takeWhile_nil]
    exact readLines_of_none (by simp [getline])
  | case2 input line rest hget ih =>
    rw [readLines_of_some hget]
    have hlt := length_lt_of_getline hget
    obtain ⟨hne, hline, -, hrest⟩ := getline_eq_some_iff.mp hget
    by_cases hfits : line.length ≤ room
    · rw [List.takeWhile_cons_of_pos (by simpa using hfits), ← ih (by omega)]
      exact readLines_of_some (getline_eq_some_iff.mpr ⟨hne, hline, hfits, hrest⟩)
    · rw [List.takeWhile_cons_of_neg (by simpa using hfits)]
      apply readLines_of_none
      unfold getline
      dsimp only
      rw [← hline, if_pos (Or.inr (by omega))]

/-! ### Written lines -/

/-- The first line of a file that was written as lines. -/
theorem getline_unlines_cons {line : List α} (hline : delim ∉ line) (ls : List (List α))
    (hfits : line.length ≤ room) :
    getline delim room (unlines delim (line :: ls)) = some (line, unlines delim ls) := by
  have hfile : unlines delim (line :: ls) = line ++ (delim :: unlines delim ls) := by
    unfold unlines
    rw [List.flatMap_cons, List.append_assoc, List.singleton_append]
  rw [hfile, getline_eq_some_iff, takeWhile_append_cons hline]
  refine ⟨by simp, rfl, hfits, ?_⟩
  rw [← List.drop_drop, List.drop_left]
  rfl

/-- The lines of a file are those that were written to it. -/
theorem lines_unlines {ls : List (List α)} (h : ∀ line ∈ ls, delim ∉ line) :
    lines delim (unlines delim ls) = ls := by
  suffices ∀ room, (unlines delim ls).length ≤ room →
      readLines delim room (unlines delim ls) = ls from this _ le_rfl
  intro room hroom
  induction ls with
  | nil => exact readLines_of_none (by simp [getline, unlines])
  | cons line ls ih =>
    have hlen : (unlines delim (line :: ls)).length =
        line.length + 1 + (unlines delim ls).length := by
      unfold unlines
      rw [List.flatMap_cons, List.length_append, List.length_append, List.length_singleton]
    have hget : getline delim room (unlines delim (line :: ls)) = _ :=
      getline_unlines_cons (h line (List.mem_cons_self ..)) ls (by omega)
    rw [readLines_of_some hget, ih (fun l hl => h l (List.mem_cons_of_mem _ hl)) (by omega)]

omit [DecidableEq α] in
/-- In a list with an order the elements before the first that fails a test are those at and before
which all pass it. -/
theorem mem_takeWhile_iff_of_pairwise {R : α → α → Prop} (hasymm : ∀ a b, R a b → ¬ R b a)
    {p : α → Bool} {l : List α} (h : l.Pairwise R) {x : α} :
    x ∈ l.takeWhile p ↔ x ∈ l ∧ p x = true ∧ ∀ y ∈ l, R y x → p y = true := by
  induction l with
  | nil => simp
  | cons a l ih =>
    obtain ⟨ha, hl⟩ := List.pairwise_cons.mp h
    cases hpa : p a with
    | false =>
      -- the first element fails, and stands before all others
      rw [List.takeWhile_cons_of_neg (by simp [hpa])]
      refine iff_of_false (List.not_mem_nil) ?_
      rintro ⟨hx, hpx, hbefore⟩
      rcases List.mem_cons.mp hx with rfl | hx
      · rw [hpa] at hpx
        cases hpx
      · have hpa' := hbefore a (List.mem_cons_self ..) (ha x hx)
        rw [hpa] at hpa'
        cases hpa'
    | true =>
      rw [List.takeWhile_cons_of_pos hpa, List.mem_cons, List.mem_cons, ih hl]
      constructor
      · rintro (rfl | ⟨hx, hpx, hbefore⟩)
        · refine ⟨Or.inl rfl, hpa, fun y hy hyx => ?_⟩
          rcases List.mem_cons.mp hy with rfl | hy
          · exact hpa
          · exact absurd (ha y hy) (hasymm y x hyx)
        · refine ⟨Or.inr hx, hpx, fun y hy hyx => ?_⟩
          rcases List.mem_cons.mp hy with rfl | hy
          · exact hpa
          · exact hbefore y hy hyx
      · rintro ⟨rfl | hx, hpx, hbefore⟩
        · exact Or.inl rfl
        · exact Or.inr ⟨hx, hpx, fun y hy => hbefore y (List.mem_cons_of_mem _ hy)⟩

end Mvr.Lines
