import Mvr.Checked.Basic
import Mathlib.Data.List.Induction

/-!
# Rectangles copied between planes

A plane is an array of `rows * stride` samples in row-major order; `pixel stride p i j` reads it at
row `i` and column `j`.  `memcpy` copies a run of samples from one plane to another, `Patch` is a
rectangle copied from one place to another, and `pasteAll` copies a list of patches in order.

What a list of patches leaves at a position is decided by the last patch that covers it: `origin`
is the place in the source the sample there comes from, `none` when no patch covers it, and
`pasteAll_apply` reads the result off it.  `pixel_memcpy` connects the two levels: a run inside a
row is a patch of height one.
-/

namespace Mvr

universe u

variable {α : Type u} {m n : ℕ}

/-- A picture: its sample at each row and column, `none` outside. -/
abbrev Picture (α : Type*) := ℕ → ℕ → Option α

/-- A plane as a picture. -/
def pixel (stride : ℕ) (p : Vector α n) : Picture α := fun i j =>
  if j < stride then p[i * stride + j]? else none

/-- `memcpy`, between two different arrays. -/
def Checked.memcpy (dst : Vector α m) (dstOff : ℤ) (src : Vector α n) (srcOff : ℤ) (len : ℕ) :
    Checked (Vector α m) :=
  (List.range len).foldlM (fun dst (k : ℕ) => do
    let v ← Checked.get src (srcOff + k)
    Checked.set dst (dstOff + k) v) dst

/-! ### Patches -/

/-- A rectangle that is copied from one place to another. -/
structure Patch where
  row : ℕ
  col : ℕ
  srcRow : ℕ
  srcCol : ℕ
  height : ℕ
  width : ℕ

namespace Patch

/-- The position lies in the patch's destination. -/
def Covers (p : Patch) (i j : ℕ) : Prop :=
  (p.row ≤ i ∧ i < p.row + p.height) ∧ (p.col ≤ j ∧ j < p.col + p.width)

instance (p : Patch) (i j : ℕ) : Decidable (p.Covers i j) := by
  unfold Covers
  infer_instance

/-- The place in the source that the patch copies a position from. -/
def place (p : Patch) (i j : ℕ) : ℕ × ℕ := (p.srcRow + (i - p.row), p.srcCol + (j - p.col))

/-- The picture after the patch is copied. -/
def paste (src : Picture α) (dst : Picture α) (p : Patch) : Picture α := fun i j =>
  if p.Covers i j then src (p.place i j).1 (p.place i j).2 else dst i j

theorem paste_of_covers (src dst : Picture α) {p : Patch} {i j : ℕ} (h : p.Covers i j) :
    paste src dst p i j = src (p.place i j).1 (p.place i j).2 := if_pos h

theorem paste_of_not_covers (src dst : Picture α) {p : Patch} {i j : ℕ} (h : ¬ p.Covers i j) :
    paste src dst p i j = dst i j := if_neg h

/-- The picture after all the patches are copied, in order. -/
def pasteAll (src dst : Picture α) (ps : List Patch) : Picture α := ps.foldl (paste src) dst

theorem pasteAll_append (src dst : Picture α) (ps qs : List Patch) :
    pasteAll src dst (ps ++ qs) = pasteAll src (pasteAll src dst ps) qs := List.foldl_append

/-- The place the sample at a position comes from, after all the patches. -/
def origin (ps : List Patch) (i j : ℕ) : Option (ℕ × ℕ) :=
  (ps.filter fun p => p.Covers i j).getLast?.map fun p => p.place i j

@[simp] theorem origin_nil (i j : ℕ) : origin [] i j = none := rfl

/-- The last patch decides, if it covers the position. -/
theorem origin_append_singleton (ps : List Patch) (p : Patch) (i j : ℕ) :
    origin (ps ++ [p]) i j = if p.Covers i j then some (p.place i j) else origin ps i j := by
  unfold origin
  rw [List.filter_append]
  split_ifs with h <;> simp [h]

/-- The copied picture, read off the origins. -/
theorem pasteAll_apply (src dst : Picture α) (ps : List Patch) (i j : ℕ) :
    pasteAll src dst ps i j = match origin ps i j with
      | some (i', j') => src i' j'
      | none => dst i j := by
  unfold pasteAll
  induction ps using List.reverseRecOn with
  | nil => rfl
  | append_singleton ps p ih =>
    rw [List.foldl_append, List.foldl_cons, List.foldl_nil, paste, ih, origin_append_singleton]
    split_ifs <;> rfl

theorem origin_eq_none_iff {ps : List Patch} {i j : ℕ} :
    origin ps i j = none ↔ ∀ p ∈ ps, ¬ p.Covers i j := by
  unfold origin
  simp

/-- Patches that copy a position from the same place decide its origin in any order. -/
theorem origin_eq_some_of_forall {ps : List Patch} {i j : ℕ} {o : ℕ × ℕ}
    (hex : ∃ p ∈ ps, p.Covers i j) (hall : ∀ p ∈ ps, p.Covers i j → p.place i j = o) :
    origin ps i j = some o := by
  cases horigin : origin ps i j with
  | none =>
    obtain ⟨p, hp, hcovers⟩ := hex
    exact absurd hcovers (origin_eq_none_iff.mp horigin p hp)
  | some o' =>
    unfold origin at horigin
    rw [Option.map_eq_some_iff] at horigin
    obtain ⟨p, hlast, rfl⟩ := horigin
    have hmem := List.mem_of_getLast? hlast
    rw [List.mem_filter, decide_eq_true_eq] at hmem
    rw [hall p hmem.1 hmem.2]

end Patch

/-! ### Runs of samples -/

/-- A run inside both arrays is copied, and nothing else changes. -/
theorem Checked.memcpy_eq_ok (dst : Vector α m) (src : Vector α n) {d s len : ℕ}
    (hd : d + len ≤ m) (hs : s + len ≤ n) :
    ∃ out, Checked.memcpy dst d src s len = .ok out ∧
      ∀ k, out[k]? = if d ≤ k ∧ k < d + len then src[s + (k - d)]? else dst[k]? := by
  induction len with
  | zero =>
    refine ⟨dst, rfl, fun k => ?_⟩
    rw [if_neg (by omega)]
  | succ len ih =>
    obtain ⟨out, hout, hget⟩ := ih (by omega) (by omega)
    have hread : Checked.get src ((s : ℤ) + (len : ℕ)) = .ok src[s + len] :=
      Checked.get_natCast src (i := s + len) (by omega)
    refine ⟨out.setIfInBounds (d + len) src[s + len], ?_, fun k => ?_⟩
    · unfold Checked.memcpy at hout ⊢
      rw [List.range_succ, List.foldlM_append, hout, Checked.ok_bind, List.foldlM_cons, hread,
        Checked.ok_bind, Checked.set_eq_ok _ (by omega)]
      rfl
    · rw [Vector.getElem?_setIfInBounds]
      rcases eq_or_ne (d + len) k with rfl | hk
      · -- the sample copied last
        rw [if_pos rfl, if_pos (by omega), if_pos (by omega), Nat.add_sub_cancel_left,
          Vector.getElem?_eq_getElem (by omega)]
      · rw [if_neg hk, hget]
        simp only [show d ≤ k ∧ k < d + (len + 1) ↔ d ≤ k ∧ k < d + len by omega]

/-- Which samples of a row lie in a run of the plane. -/
theorem run_iff {stride r c len i j : ℕ} (hj : j < stride) (hc : c + len ≤ stride) :
    r * stride + c ≤ i * stride + j ∧ i * stride + j < r * stride + c + len ↔
      (r ≤ i ∧ i < r + 1) ∧ (c ≤ j ∧ j < c + len) := by
  rcases Nat.lt_trichotomy i r with hlt | rfl | hgt
  · -- the whole row lies before the run
    have hrows : (i + 1) * stride ≤ r * stride := Nat.mul_le_mul_right stride hlt
    rw [Nat.succ_mul] at hrows
    omega
  · omega
  · -- the whole row lies after it
    have hrows : (r + 1) * stride ≤ i * stride := Nat.mul_le_mul_right stride hgt
    rw [Nat.succ_mul] at hrows
    omega

/-- A run inside a row is a patch of height one. -/
theorem pixel_memcpy {stride rows rows' : ℕ} (dst : Vector α (rows * stride))
    (src : Vector α (rows' * stride)) {r c r' c' len : ℕ} (hr : r < rows) (hc : c + len ≤ stride)
    (hr' : r' < rows') (hc' : c' + len ≤ stride) :
    ∃ out, Checked.memcpy dst (r * stride + c : ℕ) src (r' * stride + c' : ℕ) len = .ok out ∧
      pixel stride out = Patch.paste (pixel stride src) (pixel stride dst)
        ⟨r, c, r', c', 1, len⟩ := by
  have hdst : (r + 1) * stride ≤ rows * stride := Nat.mul_le_mul_right stride hr
  have hsrc : (r' + 1) * stride ≤ rows' * stride := Nat.mul_le_mul_right stride hr'
  rw [Nat.succ_mul] at hdst hsrc
  obtain ⟨out, hout, hget⟩ := Checked.memcpy_eq_ok dst src
    (show r * stride + c + len ≤ rows * stride by omega)
    (show r' * stride + c' + len ≤ rows' * stride by omega)
  refine ⟨out, hout, ?_⟩
  ext i j : 2
  by_cases hcov : Patch.Covers ⟨r, c, r', c', 1, len⟩ i j
  · -- inside the run both read the same sample of the source
    have hrun : (r ≤ i ∧ i < r + 1) ∧ (c ≤ j ∧ j < c + len) := hcov
    obtain rfl : i = r := by omega
    have hj' : j < stride := by omega
    rw [Patch.paste_of_covers _ _ hcov]
    unfold Patch.place pixel
    dsimp only
    rw [if_pos hj', if_pos (by omega), hget, if_pos ((run_iff hj' hc).mpr hrun), Nat.sub_self,
      Nat.add_zero]
    congr 1
    omega
  · rw [Patch.paste_of_not_covers _ _ hcov]
    unfold pixel
    by_cases hj : j < stride
    · rw [if_pos hj, if_pos hj, hget, if_neg fun h => hcov ((run_iff hj hc).mp h)]
    · rw [if_neg hj, if_neg hj]

theorem pixel_eq_some_iff {stride : ℕ} {p : Vector α n} {i j : ℕ} {v : α} :
    pixel stride p i j = some v ↔ j < stride ∧ p[i * stride + j]? = some v := by
  unfold pixel
  split_ifs with hj <;> simp [hj]

/-- The index of a position determines it. -/
theorem eq_of_index_eq {stride i j i' j' : ℕ} (hj : j < stride) (hj' : j' < stride)
    (h : i * stride + j = i' * stride + j') : i = i' ∧ j = j' := by
  have hj1 : j + 1 ≤ stride := hj
  have hrun := (run_iff (r := i) (i := i') hj' hj1).mp (by omega)
  omega

/-- A plane is determined by its picture. -/
theorem eq_of_pixel_eq {stride rows : ℕ} {p q : Vector α (rows * stride)}
    (h : ∀ i < rows, ∀ j < stride, pixel stride p i j = pixel stride q i j) : p = q := by
  ext k hk
  have hstride : 0 < stride := Nat.pos_of_ne_zero (by rintro rfl; simp at hk)
  have hj : k % stride < stride := Nat.mod_lt k hstride
  have hpix := h (k / stride) (Nat.div_lt_of_lt_mul (by rwa [Nat.mul_comm])) (k % stride) hj
  unfold pixel at hpix
  rwa [if_pos hj, if_pos hj, Nat.div_add_mod', Vector.getElem?_eq_getElem hk,
    Vector.getElem?_eq_getElem hk, Option.some.injEq] at hpix

/-- A position that shows the same place of the source in every picture comes from there. -/
theorem Patch.origin_eq_some_of_paste {a b : α} (hab : a ≠ b) {stride m n : ℕ} {ps : List Patch}
    {i j i' j' : ℕ} (hj' : j' < stride) (hi' : i' * stride + j' < n)
    (h : ∀ (src : Vector α n) (dst : Vector α m),
      pasteAll (pixel stride src) (pixel stride dst) ps i j = pixel stride src i' j') :
    origin ps i j = some (i', j') := by
  -- one marked sample in the source, none in the destination
  have hspot := h (Vector.ofFn fun k => if (k : ℕ) = i' * stride + j' then a else b)
    (Vector.replicate m b)
  have hmark : pixel stride (Vector.ofFn fun k : Fin n =>
      if (k : ℕ) = i' * stride + j' then a else b) i' j' = some a := by
    rw [pixel_eq_some_iff]
    simp [hj', hi']
  rw [hmark, pasteAll_apply] at hspot
  cases horigin : origin ps i j with
  | none =>
    rw [horigin] at hspot
    obtain ⟨-, hget⟩ := pixel_eq_some_iff.mp hspot
    rw [Vector.getElem?_replicate] at hget
    split_ifs at hget
    exact absurd (Option.some.inj hget).symm hab
  | some o =>
    obtain ⟨x, y⟩ := o
    rw [horigin] at hspot
    obtain ⟨hy, hget⟩ := pixel_eq_some_iff.mp hspot
    rw [Vector.getElem?_ofFn] at hget
    split_ifs at hget with hlt heq
    · obtain ⟨rfl, rfl⟩ := eq_of_index_eq hy hj' heq
      rfl
    · exact absurd (Option.some.inj hget).symm hab

/-- A position that does not depend on the destination's old content comes from the source. -/
theorem Patch.origin_ne_none_of_paste {a b : α} (hab : a ≠ b) {stride m n : ℕ} {ps : List Patch}
    {i j : ℕ} (hj : j < stride) (hi : i * stride + j < m) (src : Vector α n)
    (h : ∀ dst dst' : Vector α m, pasteAll (pixel stride src) (pixel stride dst) ps i j =
      pasteAll (pixel stride src) (pixel stride dst') ps i j) :
    origin ps i j ≠ none := by
  intro horigin
  have hold := h (Vector.replicate m a) (Vector.replicate m b)
  rw [pasteAll_apply, pasteAll_apply, horigin] at hold
  unfold pixel at hold
  rw [if_pos hj, if_pos hj, Vector.getElem?_replicate, Vector.getElem?_replicate, if_pos hi,
    if_pos hi] at hold
  exact hab (Option.some.inj hold)

/-- A patch is copied row by row; copying one of its rows again changes nothing. -/
theorem Patch.paste_paste_row (src dst : Picture α) (r c r' c' len : ℕ) {k e : ℕ} (he : e ≤ k) :
    paste src (paste src dst ⟨r, c, r', c', k, len⟩) ⟨r + e, c, r' + e, c', 1, len⟩ =
      paste src dst ⟨r, c, r', c', max k (e + 1), len⟩ := by
  ext i j : 2
  have hold : Covers ⟨r, c, r', c', k, len⟩ i j ↔
      (r ≤ i ∧ i < r + k) ∧ (c ≤ j ∧ j < c + len) := Iff.rfl
  have hnew : Covers ⟨r, c, r', c', max k (e + 1), len⟩ i j ↔
      (r ≤ i ∧ i < r + max k (e + 1)) ∧ (c ≤ j ∧ j < c + len) := Iff.rfl
  by_cases h : Covers ⟨r + e, c, r' + e, c', 1, len⟩ i j
  · -- a position of the row comes from the same place either way
    have hrow : (r + e ≤ i ∧ i < r + e + 1) ∧ (c ≤ j ∧ j < c + len) := h
    rw [paste_of_covers _ _ h, paste_of_covers _ _ (hnew.mpr (by omega))]
    obtain rfl : i = r + e := by omega
    unfold place
    dsimp only
    congr 1
    omega
  · have hrow : ¬ ((r + e ≤ i ∧ i < r + e + 1) ∧ (c ≤ j ∧ j < c + len)) := h
    rw [paste_of_not_covers _ _ h]
    by_cases h' : Covers ⟨r, c, r', c', k, len⟩ i j
    · rw [hold] at h'
      rw [paste_of_covers _ _ (hold.mpr h'), paste_of_covers _ _ (hnew.mpr (by omega))]
      rfl
    · have hnot : ¬ Covers ⟨r, c, r', c', max k (e + 1), len⟩ i j := by
        rw [hold] at h'
        rw [hnew]
        omega
      rw [paste_of_not_covers _ _ h', paste_of_not_covers _ _ hnot]

end Mvr
