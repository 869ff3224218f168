import Mvr.ToString.Basic
import Mvr.Element.Equiv
import Mathlib.Tactic.IntervalCases

/-!
# Correctness of `to_String`

`decimalText_eq_formatInt`: away from 0 and from the smallest `int`, `to_String` writes the decimal
form of its argument.  `atoi_decimalText`: the reader gets the number back, the empty text of 0
included.  So the numbers that the player keeps in attributes arrive (`toString_attributes`).
-/

namespace Mvr

/-- The digits of the loop, the highest first, are the decimal digits. -/
theorem reverse_digitLoop (m : Int32) (hm : 0 < m.toInt) :
    (digitLoop m).reverse = Nat.toDigits 10 m.toInt.toNat := by
  induction hk : m.toInt.toNat using Nat.strong_induction_on generalizing m with
  | _ k ih =>
  have h10 : Int32.toInt 10 = 10 := rfl
  have hdiv : (m / 10).toInt = m.toInt / 10 := by
    rw [Int32.toInt_div_of_ne_right _ _ (by decide), Int.tdiv_eq_ediv_of_nonneg hm.le, h10]
  have hmod : (m % 10).toInt = m.toInt % 10 := by
    rw [Int32.toInt_mod, Int.tmod_eq_emod_of_nonneg hm.le, h10]
  have hdigit : Char.ofNat ((m % 10).toInt.toNat + 48) = Nat.digitChar (k % 10) := by
    have hlt : k % 10 < 10 := Nat.mod_lt _ (by omega)
    rw [hmod, show (m.toInt % 10).toNat = k % 10 by omega]
    interval_cases k % 10 <;> rfl
  rw [digitLoop, dif_pos hm, List.reverse_cons, hdigit]
  by_cases hlt : k < 10
  · -- one digit: the loop ends after it
    have hzero : ¬ 0 < (m / 10).toInt := by omega
    rw [digitLoop, dif_neg hzero, Nat.toDigits_of_lt_base hlt, Nat.mod_eq_of_lt hlt]
    rfl
  · -- more digits: the loop goes on with the quotient
    rw [ih (m / 10).toInt.toNat (by omega) (m / 10) (by omega) rfl,
      show (m / 10).toInt.toNat = k / 10 by omega,
      Nat.toDigits_of_base_le (by omega) (show 10 ≤ k by omega)]

theorem digitLoop_of_nonpos {m : Int32} (hm : m.toInt ≤ 0) : digitLoop m = [] := by
  rw [digitLoop, dif_neg (by omega)]

/-- The text of 0 is empty. -/
theorem decimalText_zero : decimalText 0 = "" := by
  have h : digitLoop 0 = [] := digitLoop_of_nonpos (by decide)
  unfold decimalText
  dsimp only
  rw [if_neg (by decide), if_neg (by decide), h]
  rfl

/-- Away from 0 and from the smallest `int`, `to_String` writes the decimal form. -/
theorem decimalText_eq_formatInt {n : Int32} (h0 : n ≠ 0) (hmin : -2 ^ 31 < n.toInt) :
    decimalText n = CText.formatInt n.toInt := by
  have hne : n.toInt ≠ 0 := fun h => h0 (Int32.toInt_inj.mp h)
  unfold decimalText CText.formatInt CText.formatDigits
  dsimp only
  simp only [Int32.lt_iff_toInt_lt, show Int32.toInt 0 = 0 from rfl]
  split_ifs with hneg
  · have hlt := n.toInt_lt
    -- the smallest `int` is excluded, so the negation does not overflow
    have hsub : (0 - n).toInt = -n.toInt := by
      rw [Int32.toInt_sub, show Int32.toInt 0 = 0 from rfl]
      rw [Int.bmod_eq_of_le (by omega) (by omega)]
      omega
    rw [reverse_digitLoop _ (by omega), hsub, List.singleton_append,
      show (-n.toInt).toNat = n.toInt.natAbs by omega]
  · rw [reverse_digitLoop _ (by omega), List.nil_append,
      show n.toInt.toNat = n.toInt.natAbs by omega]

/-- The text of a number is one word. -/
theorem extractWord_decimalText {n : Int32} (hmin : -2 ^ 31 < n.toInt) :
    CText.extractWord (decimalText n) = decimalText n := by
  apply CText.extractWord_of_forall_not_isSpace
  intro c hc
  rcases eq_or_ne n 0 with rfl | h0
  · rw [decimalText_zero] at hc
    simp at hc
  · rw [decimalText_eq_formatInt h0 hmin, CText.formatInt, String.toList_ofList] at hc
    exact CText.isSpace_of_mem_formatDigits hc

/-- `atoi` undoes `to_String`. -/
theorem atoi_decimalText {n : Int32} (hmin : -2 ^ 31 < n.toInt) :
    CText.atoi (decimalText n) = n := by
  rcases eq_or_ne n 0 with rfl | h0
  · rw [decimalText_zero]
    decide
  · rw [decimalText_eq_formatInt h0 hmin, CText.atoi_formatInt]

/-- Different numbers have different texts. -/
theorem decimalText_injOn {m n : Int32} (hm : -2 ^ 31 < m.toInt) (hn : -2 ^ 31 < n.toInt)
    (h : decimalText m = decimalText n) : m = n := by
  rw [← atoi_decimalText hm, ← atoi_decimalText hn, h]

/-! ### Attributes -/

/-- A number kept as an attribute is read back with `atoi`. -/
theorem atoi_getAttrWord_decimalText {n : Int32} (hmin : -2 ^ 31 < n.toInt) (e : Element)
    (name d : String) :
    CText.atoi ((e.setAttr name (decimalText n)).getAttrWord name d) = n := by
  unfold Element.getAttrWord
  rw [Element.mAttrMap_setAttr_self]
  show CText.atoi (CText.extractWord (decimalText n)) = n
  rw [extractWord_decimalText hmin, atoi_decimalText hmin]

/-- Numbers pass through the attributes with both copies of `to_String`, and the numbered keys of
both are the same and tell the numbers apart. -/
theorem toString_attributes :
    (∀ n : Int32, -2 ^ 31 < n.toInt → ∀ (e : Element) (name d : String),
      CText.atoi ((e.setAttr name (Player.toString n)).getAttrWord name d) = n ∧
      CText.atoi ((e.setAttr name (Vif.toString n)).getAttrWord name d) = n) ∧
    (∀ i j : Int32, 0 ≤ i → 0 ≤ j → i ≠ j →
      "tabId" ++ Player.toString i ≠ "tabId" ++ Player.toString j ∧
      "tabId" ++ Vif.toString i ≠ "tabId" ++ Vif.toString j) ∧
    ∀ i : Int32, 0 ≤ i → "tabId" ++ Player.toString i = "tabId" ++ Vif.toString i := by
  have hkeys : ∀ i j : Int32, 0 ≤ i → 0 ≤ j → i ≠ j →
      "tabId" ++ decimalText i ≠ "tabId" ++ decimalText j := by
    intro i j hi hj hne heq
    rw [Int32.le_iff_toInt_le, show Int32.toInt 0 = 0 from rfl] at hi hj
    have htext : decimalText i = decimalText j := String.append_right_inj _ |>.mp heq
    exact hne (decimalText_injOn (by omega) (by omega) htext)
  refine ⟨fun n hmin e name d => ?_, fun i j hi hj hne => ?_, fun i _ => rfl⟩
  · exact ⟨atoi_getAttrWord_decimalText hmin e name d, atoi_getAttrWord_decimalText hmin e name d⟩
  · exact ⟨hkeys i j hi hj hne, hkeys i j hi hj hne⟩

theorem toString_attributes_zero :
    CText.atoi (((Element.new "vif").setAttr "layNum" (Player.toString 0)).getAttrWord
      "layNum" "64") = 0 ∧
    "tabId" ++ Player.toString 0 ≠ "tabId" ++ Player.toString 1 :=
  ⟨(toString_attributes.1 0 (by decide) (Element.new "vif") "layNum" "64").1,
    (toString_attributes.2.1 0 1 (by decide) (by decide) (by decide)).1⟩

end Mvr
