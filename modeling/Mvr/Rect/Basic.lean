import Mathlib.Algebra.Order.Field.Basic
import Mathlib.Tactic.Linarith

/-!
# Cells of a frame, cropped by a margin

A rectangle is given by a corner, a width and a height, either of which may be negative: the corner
is then not the one at the top left.  Along each axis such a side reaches from `lower` to `upper`.

A frame that is divided into cells of size `p`, each cropped by a margin `d` on both sides, gives
the side from `a * p + d` of length `p - 2 * d` to cell `a`.  As long as the margin does not exceed
the cell, the cropped cells stay inside the frame (`inside_cropped`) and do not overlap
(`disjoint_cropped`), even where they are so narrow that the length is negative.
-/

namespace Mvr

variable {α : Type*} [Field α] [LinearOrder α]

/-- A rectangle by a corner and its sides. -/
structure Rect (α : Type*) where
  x : α
  y : α
  w : α
  h : α

namespace Rect

/-- The lower end of a side. -/
def lower (s len : α) : α := min s (s + len)

/-- The upper end of a side. -/
def upper (s len : α) : α := max s (s + len)

/-- The rectangle lies in a frame. -/
structure Inside (r : Rect α) (frameW frameH : α) : Prop where
  left : 0 ≤ lower r.x r.w
  right : upper r.x r.w ≤ frameW
  top : 0 ≤ lower r.y r.h
  bottom : upper r.y r.h ≤ frameH

/-- A point in the interior of a rectangle. -/
structure Contains (r : Rect α) (u v : α) : Prop where
  left : lower r.x r.w < u
  right : u < upper r.x r.w
  top : lower r.y r.h < v
  bottom : v < upper r.y r.h

/-- No point is in the interior of both rectangles. -/
def Disjoint (r r' : Rect α) : Prop := ∀ u v, ¬ (r.Contains u v ∧ r'.Contains u v)

theorem Disjoint.symm {r r' : Rect α} (h : r.Disjoint r') : r'.Disjoint r :=
  fun u v hboth => h u v ⟨hboth.2, hboth.1⟩

theorem disjoint_of_upper_le_lower_x {r r' : Rect α} (h : upper r.x r.w ≤ lower r'.x r'.w) :
    r.Disjoint r' := by
  rintro u v ⟨hr, hr'⟩
  exact absurd (hr.right.trans_le (h.trans hr'.left.le)) (lt_irrefl u)

theorem disjoint_of_upper_le_lower_y {r r' : Rect α} (h : upper r.y r.h ≤ lower r'.y r'.h) :
    r.Disjoint r' := by
  rintro u v ⟨hr, hr'⟩
  exact absurd (hr.bottom.trans_le (h.trans hr'.top.le)) (lt_irrefl v)

/-! ### Cropped cells -/

variable [IsStrictOrderedRing α] {p d : α}

/-- A margin that is no larger than the cell leaves the cropped cells in the frame. -/
theorem cropped_inside (h0 : 0 ≤ d) (hd : d ≤ p) {a n : ℕ} (ha : a < n) :
    0 ≤ lower (a * p + d) (p - 2 * d) ∧ upper (a * p + d) (p - 2 * d) ≤ n * p := by
  have hnonneg : 0 ≤ (a : α) * p := mul_nonneg (Nat.cast_nonneg a) (h0.trans hd)
  have hlast : ((a : α) + 1) * p ≤ n * p := by
    apply mul_le_mul_of_nonneg_right _ (h0.trans hd)
    exact_mod_cast ha
  unfold lower upper
  rw [le_min_iff, max_le_iff]
  refine ⟨⟨?_, ?_⟩, ?_, ?_⟩ <;> linarith

/-- The first cell sticks out of the frame if the margin exceeds it. -/
theorem le_of_cropped_inside (h : 0 ≤ lower d (p - 2 * d)) : d ≤ p := by
  unfold lower at h
  rw [le_min_iff] at h
  linarith [h.2]

/-- A cropped cell ends before a later one begins. -/
theorem upper_cropped_le_lower (h0 : 0 ≤ d) (hd : d ≤ p) {a b : ℕ} (hab : a < b) :
    upper (a * p + d) (p - 2 * d) ≤ lower (b * p + d) (p - 2 * d) := by
  have hlater : ((a : α) + 1) * p ≤ b * p := by
    apply mul_le_mul_of_nonneg_right _ (h0.trans hd)
    exact_mod_cast hab
  unfold lower upper
  rw [le_min_iff, max_le_iff, max_le_iff]
  refine ⟨⟨?_, ?_⟩, ?_, ?_⟩ <;> linarith

/-- The cropped cell in column `a` and row `b`. -/
def cropped (p q d : α) (a b : ℕ) : Rect α := ⟨a * p + d, b * q + d, p - 2 * d, q - 2 * d⟩

variable {q : α}

/-- The cropped cells of a frame lie inside it. -/
theorem inside_cropped (h0 : 0 ≤ d) (hp : d ≤ p) (hq : d ≤ q) {a b m n : ℕ} (ha : a < m)
    (hb : b < n) : (cropped p q d a b).Inside (m * p) (n * q) where
  left := (cropped_inside h0 hp ha).1
  right := (cropped_inside h0 hp ha).2
  top := (cropped_inside h0 hq hb).1
  bottom := (cropped_inside h0 hq hb).2

/-- Different cropped cells do not overlap. -/
theorem disjoint_cropped (h0 : 0 ≤ d) (hp : d ≤ p) (hq : d ≤ q) {a b a' b' : ℕ}
    (h : a ≠ a' ∨ b ≠ b') : (cropped p q d a b).Disjoint (cropped p q d a' b') := by
  rcases h with ha | hb
  · rcases Nat.lt_or_gt_of_ne ha with hlt | hgt
    · exact disjoint_of_upper_le_lower_x (upper_cropped_le_lower h0 hp hlt)
    · apply Disjoint.symm
      exact disjoint_of_upper_le_lower_x (upper_cropped_le_lower h0 hp hgt)
  · rcases Nat.lt_or_gt_of_ne hb with hlt | hgt
    · exact disjoint_of_upper_le_lower_y (upper_cropped_le_lower h0 hq hlt)
    · apply Disjoint.symm
      exact disjoint_of_upper_le_lower_y (upper_cropped_le_lower h0 hq hgt)

end Rect

end Mvr
