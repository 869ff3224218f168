import Mvr.CfJson.Basic
import Mvr.CText.Equiv
import Mathlib.Algebra.BigOperators.Group.List.Basic
import Mathlib.Data.Nat.Digits.Defs

/-!
# Printing JSON

`cf_json_print_preallocated` without formatting prints the compact form: no white space between the
tokens, and characters that a string may not hold are escaped.  The text goes to a buffer that must
have room for it and the terminating zero.

* `byteLength_commaSeparated_le`: items of bounded length make a list of bounded length.
* `nul_not_mem_print`: a printed text has no zero in it, so `strlen` finds its end.
-/

namespace Mvr

/-- The bytes of a text in UTF-8. -/
def byteLength (cs : List Char) : ℕ := (cs.map Char.utf8Size).sum

namespace CfJson

/-- A character inside a string. -/
def escapeChar (c : Char) : List Char :=
  if c = '\x22' then ['\x5c', '\x22']
  else if c = '\x5c' then ['\x5c', '\x5c']
  else if c = '\x08' then ['\x5c', 'b']
  else if c = '\x0c' then ['\x5c', 'f']
  else if c = '\x0a' then ['\x5c', 'n']
  else if c = '\x0d' then ['\x5c', 'r']
  else if c = '\x09' then ['\x5c', 't']
  else if c.toNat < 32 then
    ['\x5c', 'u', '0', '0', Nat.digitChar (c.toNat / 16), Nat.digitChar (c.toNat % 16)]
  else [c]

/-- A string in quotes. -/
def printString (s : String) : List Char :=
  '\x22' :: (s.toList.flatMap escapeChar ++ ['\x22'])

/-- The texts with commas between them. -/
def commaSeparated : List (List Char) → List Char
  | [] => []
  | [text] => text
  | text :: texts => text ++ ',' :: commaSeparated texts

/-- A member of an object. -/
def memberText (name : String) (text : List Char) : List Char := printString name ++ ':' :: text

def arrayText (texts : List (List Char)) : List Char := '[' :: (commaSeparated texts ++ [']'])

def objectText (texts : List (List Char)) : List Char :=
  '\x7b' :: (commaSeparated texts ++ ['\x7d'])

mutual

/-- The compact text of a value. -/
def print : CfJson → Checked (List Char)
  | int n => pure (CText.formatDigits n.toInt)
  | string s => pure (printString s)
  | array items => do
    let texts ← printItems items
    pure (arrayText texts)
  | object members => do
    let texts ← printMembers members
    pure (objectText texts)
  | other => .error .unspecified

/-- The texts of the items of an array. -/
def printItems : List CfJson → Checked (List (List Char))
  | [] => pure []
  | item :: items => do
    let text ← item.print
    let texts ← printItems items
    pure (text :: texts)

/-- The texts of the members of an object. -/
def printMembers : List (String × CfJson) → Checked (List (List Char))
  | [] => pure []
  | (name, item) :: members => do
    let text ← item.print
    let texts ← printMembers members
    pure (memberText name text :: texts)

end

example : print (.object [("rowNo", .int (-1)), ("pos", .array [.int 12])]) =
    .ok "\x7b\"rowNo\":-1,\"pos\":[12]\x7d".toList := rfl

/-- `cf_json_print_preallocated`, unformatted: the text in the buffer.  What a buffer without enough
room holds is left to the library. -/
def printPreallocated (json : CfJson) (length : ℕ) : Checked (List Char) := do
  let text ← json.print
  if byteLength text < length then pure text else .error .unspecified

end CfJson

/-! ### Lengths -/

@[simp] theorem byteLength_nil : byteLength [] = 0 := rfl

@[simp] theorem byteLength_cons (c : Char) (cs : List Char) :
    byteLength (c :: cs) = c.utf8Size + byteLength cs := by
  simp [byteLength]

@[simp] theorem byteLength_append (cs ds : List Char) :
    byteLength (cs ++ ds) = byteLength cs + byteLength ds := by
  simp [byteLength]

/-- A character of ASCII is one byte. -/
theorem utf8Size_of_lt {c : Char} (h : c.toNat < 128) : c.utf8Size = 1 := by
  unfold Char.utf8Size
  rw [if_pos]
  exact UInt32.le_iff_toNat_le.mpr (Nat.le_of_lt_succ h)

/-- A text of ASCII has as many bytes as characters. -/
theorem byteLength_of_ascii {cs : List Char} (h : ∀ c ∈ cs, c.toNat < 128) :
    byteLength cs = cs.length := by
  induction cs with
  | nil => rfl
  | cons c cs ih =>
    obtain ⟨hc, hcs⟩ := List.forall_mem_cons.mp h
    rw [byteLength_cons, utf8Size_of_lt hc, ih hcs, List.length_cons, Nat.add_comm]

namespace CText

theorem toNat_lt_of_isDigit {c : Char} (h : c.isDigit = true) : 48 ≤ c.toNat ∧ c.toNat < 58 := by
  simp only [Char.isDigit, Bool.and_eq_true, decide_eq_true_eq, UInt32.le_iff_toNat_le] at h
  have hlo : 48 ≤ c.val.toNat := h.1
  have hhi : c.val.toNat ≤ 57 := h.2
  exact ⟨hlo, by unfold Char.toNat; omega⟩

/-- The characters of a formatted integer are its sign and its digits. -/
theorem toNat_of_mem_formatDigits {n : ℤ} {c : Char} (h : c ∈ formatDigits n) :
    0 < c.toNat ∧ c.toNat < 128 := by
  have hdigit : ∀ m, c ∈ Nat.toDigits 10 m → 0 < c.toNat ∧ c.toNat < 128 := fun m hm => by
    have hc := toNat_lt_of_isDigit (Nat.isDigit_of_mem_toDigits (by omega) (by omega) hm)
    omega
  unfold formatDigits at h
  split_ifs at h
  · rcases List.mem_cons.mp h with rfl | h
    · decide
    · exact hdigit _ h
  · exact hdigit _ h

/-- An `int` has at most ten digits and a sign. -/
theorem byteLength_formatDigits_le (n : Int32) : byteLength (formatDigits n.toInt) ≤ 11 := by
  have hlo := n.le_toInt
  have hhi := n.toInt_lt
  have hdigits : (Nat.toDigits 10 n.toInt.natAbs).length ≤ 10 :=
    Nat.toDigits_length 10 _ 10 (by omega) (by omega)
  rw [byteLength_of_ascii fun c hc => (toNat_of_mem_formatDigits hc).2]
  unfold formatDigits
  split_ifs
  · rw [List.length_cons]
    omega
  · omega

end CText

namespace CfJson

theorem byteLength_memberText (name : String) (text : List Char) :
    byteLength (memberText name text) =
      byteLength (printString name) + (1 + byteLength text) := by
  rw [memberText, byteLength_append, byteLength_cons]
  rfl

theorem byteLength_arrayText (texts : List (List Char)) :
    byteLength (arrayText texts) = 1 + (byteLength (commaSeparated texts) + 1) := by
  rw [arrayText, byteLength_cons, byteLength_append]
  rfl

theorem byteLength_objectText (texts : List (List Char)) :
    byteLength (objectText texts) = 1 + (byteLength (commaSeparated texts) + 1) := by
  rw [objectText, byteLength_cons, byteLength_append]
  rfl

theorem byteLength_commaSeparated_cons_cons (text next : List Char) (texts : List (List Char)) :
    byteLength (commaSeparated (text :: next :: texts)) =
      byteLength text + (1 + byteLength (commaSeparated (next :: texts))) := by
  rw [commaSeparated, byteLength_append, byteLength_cons]
  · rfl
  · simp

@[simp] theorem commaSeparated_singleton (text : List Char) : commaSeparated [text] = text := rfl

/-- Every text of a list takes its own length and a comma, at most. -/
theorem byteLength_commaSeparated_le {n : ℕ} {texts : List (List Char)}
    (h : ∀ text ∈ texts, byteLength text ≤ n) :
    byteLength (commaSeparated texts) ≤ texts.length * (n + 1) := by
  induction texts with
  | nil => simp [commaSeparated]
  | cons text texts ih =>
    obtain ⟨htext, htexts⟩ := List.forall_mem_cons.mp h
    have hrest := ih htexts
    cases texts with
    | nil =>
      rw [commaSeparated_singleton, List.length_singleton]
      omega
    | cons next texts =>
      rw [byteLength_commaSeparated_cons_cons, List.length_cons, Nat.add_one_mul]
      omega

/-! ### The terminating zero -/

theorem nul_not_mem_escapeChar (c : Char) : '\x00' ∉ escapeChar c := by
  have hdigit : ∀ n < 16, '\x00' ≠ Nat.digitChar n := by decide
  unfold escapeChar
  split_ifs with _ _ _ _ _ _ _ hlt
  any_goals decide
  · -- a control character becomes two digits
    have h1 := hdigit (c.toNat / 16) (by omega)
    have h2 := hdigit (c.toNat % 16) (by omega)
    simp [h1, h2]
  · rw [List.mem_singleton]
    rintro rfl
    exact hlt (by decide)

theorem nul_not_mem_printString (s : String) : '\x00' ∉ printString s := by
  simp [printString, nul_not_mem_escapeChar]

theorem nul_not_mem_commaSeparated {texts : List (List Char)}
    (h : ∀ text ∈ texts, '\x00' ∉ text) : '\x00' ∉ commaSeparated texts := by
  induction texts with
  | nil => simp [commaSeparated]
  | cons text texts ih =>
    obtain ⟨htext, htexts⟩ := List.forall_mem_cons.mp h
    cases texts with
    | nil => exact htext
    | cons next texts =>
      have hrest := ih htexts
      rw [commaSeparated, List.mem_append, List.mem_cons]
      · rintro (hmem | hmem | hmem)
        · exact htext hmem
        · cases hmem
        · exact hrest hmem
      · simp

mutual

/-- A printed text has no zero in it. -/
theorem nul_not_mem_print : ∀ {json : CfJson} {text : List Char},
    json.print = .ok text → '\x00' ∉ text
  | int n, text, h => by
    obtain rfl := Except.ok.inj h
    intro hmem
    exact absurd (CText.toNat_of_mem_formatDigits hmem).1 (by decide)
  | string s, text, h => by
    obtain rfl := Except.ok.inj h
    exact nul_not_mem_printString s
  | array items, text, h => by
    rw [print, Checked.bind_eq_ok] at h
    obtain ⟨texts, htexts, h⟩ := h
    obtain rfl := Except.ok.inj h
    have hnot := nul_not_mem_commaSeparated (nul_not_mem_printItems htexts)
    simp [arrayText, hnot]
  | object members, text, h => by
    rw [print, Checked.bind_eq_ok] at h
    obtain ⟨texts, htexts, h⟩ := h
    obtain rfl := Except.ok.inj h
    have hnot := nul_not_mem_commaSeparated (nul_not_mem_printMembers htexts)
    simp [objectText, hnot]
  | other, text, h => by cases h

theorem nul_not_mem_printItems : ∀ {items : List CfJson} {texts : List (List Char)},
    printItems items = .ok texts → ∀ text ∈ texts, '\x00' ∉ text
  | [], texts, h => by
    obtain rfl := Except.ok.inj h
    simp
  | item :: items, texts, h => by
    rw [printItems, Checked.bind_eq_ok] at h
    obtain ⟨text, htext, h⟩ := h
    obtain ⟨rest, hrest, h⟩ := Checked.bind_eq_ok.mp h
    obtain rfl := Except.ok.inj h
    exact List.forall_mem_cons.mpr ⟨nul_not_mem_print htext, nul_not_mem_printItems hrest⟩

theorem nul_not_mem_printMembers : ∀ {members : List (String × CfJson)}
    {texts : List (List Char)}, printMembers members = .ok texts → ∀ text ∈ texts, '\x00' ∉ text
  | [], texts, h => by
    obtain rfl := Except.ok.inj h
    simp
  | (name, item) :: members, texts, h => by
    rw [printMembers, Checked.bind_eq_ok] at h
    obtain ⟨text, htext, h⟩ := h
    obtain ⟨rest, hrest, h⟩ := Checked.bind_eq_ok.mp h
    obtain rfl := Except.ok.inj h
    have hnot : '\x00' ∉ memberText name text := by
      simp [memberText, nul_not_mem_printString, nul_not_mem_print htext]
    exact List.forall_mem_cons.mpr ⟨hnot, nul_not_mem_printMembers hrest⟩

end

end CfJson

end Mvr
