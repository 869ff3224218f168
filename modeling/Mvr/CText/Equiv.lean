import Mvr.CText.Basic
import Mathlib.Data.List.TakeWhile

/-!
# Reading back a formatted number

* `scanInt_formatDigits_append`: the scanner reads a formatted integer back and stops right after
  it, if the text behind it does not start with a digit.
* `extractInt_formatInt`, `extractInt?_formatInt`: a stream returns the `int` inserted into it.
* `extractWord_eq_self_iff`: exactly a text without white space is one word.
-/

namespace Mvr.CText

/-! ### Scanning digits -/

/-- `scanNat` reads a nonempty run of digits to its end. -/
theorem scanNat_append {ds rest : List Char} (hne : ds ≠ []) (hds : ∀ c ∈ ds, c.isDigit = true)
    (hrest : ∀ c ∈ rest.head?, c.isDigit = false) :
    scanNat (ds ++ rest) = some (Nat.ofDigitChars 10 ds 0, rest) := by
  have hstop : rest.takeWhile Char.isDigit = [] ∧ rest.dropWhile Char.isDigit = rest := by
    cases rest with
    | nil => simp
    | cons c rest => simp [hrest c rfl]
  have htake : (ds ++ rest).takeWhile Char.isDigit = ds := by
    rw [List.takeWhile_append_of_pos hds, hstop.1, List.append_nil]
  have hdrop : (ds ++ rest).dropWhile Char.isDigit = rest := by
    rw [List.dropWhile_append_of_pos hds, hstop.2]
  unfold scanNat
  rw [htake, hdrop]
  cases ds with
  | nil => exact absurd rfl hne
  | cons c ds => rfl

theorem scanNat_toDigits_append (n : ℕ) {rest : List Char}
    (hrest : ∀ c ∈ rest.head?, c.isDigit = false) :
    scanNat (Nat.toDigits 10 n ++ rest) = some (n, rest) := by
  have hdigits : ∀ c ∈ Nat.toDigits 10 n, c.isDigit = true := fun c hc =>
    Nat.isDigit_of_mem_toDigits (by omega) (by omega) hc
  rw [scanNat_append Nat.toDigits_ne_nil hdigits hrest, Nat.ofDigitChars_ten_toDigits]

theorem isSpace_of_isDigit {c : Char} (hc : c.isDigit = true) : isSpace c = false := by
  unfold isSpace
  by_contra h
  simp only [Bool.not_eq_false, Bool.or_eq_true, decide_eq_true_eq] at h
  rcases h with ((((rfl | rfl) | rfl) | rfl) | rfl) | rfl <;> exact absurd hc (by decide)

/-- A text that starts with a digit has no space and no sign to skip. -/
theorem scanInt_cons_of_isDigit {c : Char} (hc : c.isDigit = true) (cs : List Char) :
    scanInt (c :: cs) = (scanNat (c :: cs)).map fun p => ((p.1 : ℤ), p.2) := by
  have hdrop : (c :: cs).dropWhile isSpace = c :: cs := by
    rw [List.dropWhile_cons_of_neg (by simp [isSpace_of_isDigit hc])]
  unfold scanInt
  rw [hdrop]
  split
  · rename_i heq
    obtain ⟨rfl, -⟩ := List.cons.inj heq
    exact absurd hc (by decide)
  · rename_i heq
    obtain ⟨rfl, -⟩ := List.cons.inj heq
    exact absurd hc (by decide)
  · rfl

/-- The scanner reads a formatted integer back. -/
theorem scanInt_formatDigits_append (n : ℤ) {rest : List Char}
    (hrest : ∀ c ∈ rest.head?, c.isDigit = false) :
    scanInt (formatDigits n ++ rest) = some (n, rest) := by
  unfold formatDigits
  split_ifs with hn
  · have hdrop : (('-' :: Nat.toDigits 10 n.natAbs) ++ rest).dropWhile isSpace
        = '-' :: (Nat.toDigits 10 n.natAbs ++ rest) := by
      rw [List.cons_append, List.dropWhile_cons_of_neg (by decide)]
    unfold scanInt
    rw [hdrop]
    -- the sign is read, and the digits are those of the absolute value
    show Option.map _ (scanNat _) = _
    rw [scanNat_toDigits_append _ hrest, Option.map_some]
    congr 2
    omega
  · -- no sign: the first character is a digit
    obtain ⟨c, cs, hcs⟩ :=
      List.exists_cons_of_ne_nil (Nat.toDigits_ne_nil (n := n.natAbs) (b := 10))
    have hmem : c ∈ Nat.toDigits 10 n.natAbs := by
      rw [hcs]
      exact List.mem_cons_self ..
    have hc : c.isDigit = true := Nat.isDigit_of_mem_toDigits (by omega) (by omega) hmem
    rw [hcs, List.cons_append, scanInt_cons_of_isDigit hc, ← List.cons_append, ← hcs,
      scanNat_toDigits_append _ hrest, Option.map_some]
    congr 2
    omega

theorem scanInt_formatInt (n : ℤ) : scanInt (formatInt n).toList = some (n, []) := by
  have hnil : ∀ c ∈ ([] : List Char).head?, c.isDigit = false := by simp
  have h := scanInt_formatDigits_append n hnil
  rw [List.append_nil] at h
  rw [formatInt, String.toList_ofList, h]

/-! ### Streams -/

/-- A stream returns the `int` inserted into it. -/
@[simp] theorem extractInt_formatInt (n : Int32) : extractInt (formatInt n.toInt) = some n := by
  unfold extractInt
  rw [scanInt_formatInt]
  exact congrArg some (Int32.ofIntClamp_toInt n)

@[simp] theorem atoi_formatInt (n : Int32) : atoi (formatInt n.toInt) = n := by
  unfold atoi
  rw [scanInt_formatInt]
  exact Int32.ofIntClamp_toInt n

theorem extractInt?_formatInt (n : Int32) : extractInt? (formatInt n.toInt) = some (n, []) := by
  unfold extractInt?
  rw [scanInt_formatInt]
  show (if _ then some (Int32.ofInt n.toInt, []) else none) = _
  rw [if_pos ⟨n.le_toInt, n.toInt_lt⟩, Int32.ofInt_toInt]

@[simp] theorem extractBool_formatBool (b : Bool) : extractBool (formatBool b) = some b := by
  cases b <;> decide

/-- No character of a formatted integer is white space. -/
theorem isSpace_of_mem_formatDigits {n : ℤ} {c : Char} (h : c ∈ formatDigits n) :
    isSpace c = false := by
  have hdigit : ∀ m, c ∈ Nat.toDigits 10 m → isSpace c = false := fun m hm =>
    isSpace_of_isDigit (Nat.isDigit_of_mem_toDigits (by omega) (by omega) hm)
  unfold formatDigits at h
  split_ifs at h
  · rcases List.mem_cons.mp h with rfl | h
    · decide
    · exact hdigit _ h
  · exact hdigit _ h

/-- A text without white space is one word. -/
theorem extractWord_of_forall_not_isSpace {s : String} (h : ∀ c ∈ s.toList, isSpace c = false) :
    extractWord s = s := by
  have hdrop : s.toList.dropWhile isSpace = s.toList := by
    cases hs : s.toList with
    | nil => rfl
    | cons c cs =>
      rw [List.dropWhile_cons_of_neg]
      simp [h c (by rw [hs]; simp)]
  have htake : (s.toList.takeWhile fun c => !isSpace c) = s.toList := by
    apply List.takeWhile_eq_self_iff.mpr
    intro c hc
    simp [h c hc]
  unfold extractWord
  rw [hdrop, htake, String.ofList_toList]

/-- A text is one word if it is extracted as it is. -/
theorem extractWord_eq_self_iff {s : String} :
    extractWord s = s ↔ ∀ c ∈ s.toList, isSpace c = false := by
  refine ⟨fun h c hc => ?_, extractWord_of_forall_not_isSpace⟩
  rw [← h, extractWord, String.toList_ofList] at hc
  have hword := List.mem_takeWhile_imp hc
  rwa [Bool.not_eq_true'] at hword

end Mvr.CText
