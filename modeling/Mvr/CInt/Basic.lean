import Mathlib.Data.Int.Basic
import Mathlib.Tactic.Common
import Mathlib.Tactic.Linarith

/-!
# Arithmetic of `int`

`int` is `Int32`: the product and the sum of two values are taken modulo `2 ^ 32`, as the target's
instructions do.  The lemmas below say when a result is the exact one, so that a bounded
computation can be read in `ℤ`.
-/

namespace Mvr.CInt

theorem toInt_add_of_lt {a b : Int32} (hlo : -2 ^ 31 ≤ a.toInt + b.toInt)
    (hhi : a.toInt + b.toInt < 2 ^ 31) : (a + b).toInt = a.toInt + b.toInt := by
  rw [Int32.toInt_add]
  exact Int.bmod_eq_of_le (by omega) (by omega)

theorem toInt_mul_of_lt {a b : Int32} (hlo : -2 ^ 31 ≤ a.toInt * b.toInt)
    (hhi : a.toInt * b.toInt < 2 ^ 31) : (a * b).toInt = a.toInt * b.toInt := by
  rw [Int32.toInt_mul]
  exact Int.bmod_eq_of_le (by omega) (by omega)

/-- The row-major index of a cell, when it does not overflow. -/
theorem toInt_mul_add_of_lt {a b c : Int32} (ha : 0 ≤ a.toInt) (hb : 0 ≤ b.toInt)
    (hc : 0 ≤ c.toInt) (hlt : a.toInt * b.toInt + c.toInt < 2 ^ 31) :
    (a * b + c).toInt = a.toInt * b.toInt + c.toInt := by
  have hmul : 0 ≤ a.toInt * b.toInt := Int.mul_nonneg ha hb
  have h := toInt_mul_of_lt (a := a) (b := b) (by omega) (by omega)
  rw [toInt_add_of_lt (by omega) (by omega), h]

/-- The quotient of a loop counter by a positive `int` is the quotient of natural numbers. -/
theorem toInt_ofNat_div {i : ℕ} (hi : i < 2 ^ 31) {c : Int32} (hc : 0 < c.toInt) :
    (Int32.ofNat i / c).toInt = (i / c.toInt.toNat : ℕ) := by
  have hne : c ≠ -1 := by
    rintro rfl
    exact absurd hc (by decide)
  rw [Int32.toInt_div_of_ne_right _ _ hne, Int32.toInt_ofNat_of_lt hi,
    Int.tdiv_eq_ediv_of_nonneg (by omega)]
  push_cast
  rw [Int.toNat_of_nonneg hc.le]

/-- The remainder of a loop counter by a positive `int` is the remainder of natural numbers. -/
theorem toInt_ofNat_mod {i : ℕ} (hi : i < 2 ^ 31) {c : Int32} (hc : 0 < c.toInt) :
    (Int32.ofNat i % c).toInt = (i % c.toInt.toNat : ℕ) := by
  rw [Int32.toInt_mod, Int32.toInt_ofNat_of_lt hi, Int.tmod_eq_emod_of_nonneg (by omega)]
  push_cast
  rw [Int.toNat_of_nonneg hc.le]

theorem toInt_ofNat_div_nonneg {i : ℕ} (hi : i < 2 ^ 31) {c : Int32} (hc : 0 < c.toInt) :
    0 ≤ (Int32.ofNat i / c).toInt := by
  rw [toInt_ofNat_div hi hc]
  exact Int.natCast_nonneg _

theorem toInt_ofNat_mod_nonneg {i : ℕ} (hi : i < 2 ^ 31) {c : Int32} (hc : 0 < c.toInt) :
    0 ≤ (Int32.ofNat i % c).toInt := by
  rw [toInt_ofNat_mod hi hc]
  exact Int.natCast_nonneg _

/-- The quotient of a loop counter, as a converted natural number. -/
theorem ofNat_div {i : ℕ} (hi : i < 2 ^ 31) {c : Int32} (hc : 0 < c.toInt) :
    Int32.ofNat i / c = Int32.ofNat (i / c.toInt.toNat) := by
  have hle : i / c.toInt.toNat ≤ i := Nat.div_le_self _ _
  rw [← Int32.toInt_inj, toInt_ofNat_div hi hc, Int32.toInt_ofNat_of_lt (by omega)]

theorem ofNat_mod {i : ℕ} (hi : i < 2 ^ 31) {c : Int32} (hc : 0 < c.toInt) :
    Int32.ofNat i % c = Int32.ofNat (i % c.toInt.toNat) := by
  have hle : i % c.toInt.toNat ≤ i := Nat.mod_le _ _
  rw [← Int32.toInt_inj, toInt_ofNat_mod hi hc, Int32.toInt_ofNat_of_lt (by omega)]

theorem ofNat_toNat {a : Int32} (ha : 0 ≤ a.toInt) : Int32.ofNat a.toInt.toNat = a := by
  have hlt := a.toInt_lt
  rw [← Int32.toInt_inj, Int32.toInt_ofNat_of_lt (by omega), Int.toNat_of_nonneg ha]

/-- A positive number is neither of the two special values. -/
theorem ne_zero_of_pos {n : Int32} (h : 1 ≤ n.toInt) : n ≠ 0 := by
  rintro rfl
  exact absurd h (by decide)

theorem ne_neg_one_of_pos {n : Int32} (h : 1 ≤ n.toInt) : n ≠ -1 := by
  rintro rfl
  exact absurd h (by decide)

/-- A cast from `uint32_t` to `int`, when the value fits. -/
theorem toInt_toInt32_of_lt {n : UInt32} (hn : n.toNat < 2 ^ 31) : n.toInt32.toInt = n.toNat := by
  show n.toInt32.toBitVec.toInt = n.toBitVec.toNat
  rw [UInt32.toBitVec_toInt32]
  exact BitVec.toInt_eq_toNat_of_lt (by
    have h : n.toBitVec.toNat < 2 ^ 31 := hn
    omega)

end Mvr.CInt
