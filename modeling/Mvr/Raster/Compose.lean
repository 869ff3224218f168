import Mvr.Raster.Basic

/-!
# Copying a picture twice

What two passes of `Patch.pasteAll` leave is read off the origins as well: a position shows the
origin of its origin (`pasteAll_pasteAll`).  A pass keeps all of a picture when every place is the
origin of some position (`eq_of_pasteAll_eq`), and does not see what is no origin
(`pasteAll_congr`).
-/

namespace Mvr.Patch

universe u

variable {α : Type u} {src src' dst dst' : Picture α} {ps qs rs : List Patch}

/-- One pass over composed origins does what two passes do, when the first pass writes every place
that the second one reads. -/
theorem pasteAll_pasteAll
    (hcomp : ∀ i j, origin rs i j = (origin qs i j).bind fun o => origin ps o.1 o.2)
    (hread : ∀ i j o, origin qs i j = some o → origin ps o.1 o.2 ≠ none) :
    pasteAll (pasteAll src dst ps) dst' qs = pasteAll src dst' rs := by
  ext i j : 2
  rw [pasteAll_apply, pasteAll_apply, hcomp]
  cases hq : origin qs i j with
  | none => rfl
  | some o =>
    obtain ⟨o', ho'⟩ := Option.ne_none_iff_exists'.mp (hread i j o hq)
    rw [Option.bind_some, ho']
    dsimp only
    rw [pasteAll_apply, ho']

/-- A position that is its own origin shows the picture. -/
theorem pasteAll_of_origin_self {i j : ℕ} (h : origin ps i j = some (i, j)) :
    pasteAll src dst ps i j = src i j := by
  rw [pasteAll_apply, h]

/-- The copy shows every place that is an origin. -/
theorem eq_of_pasteAll_eq {i j i' j' : ℕ} (h : origin ps i j = some (i', j'))
    (heq : pasteAll src dst ps i j = pasteAll src' dst' ps i j) : src i' j' = src' i' j' := by
  rwa [pasteAll_apply, pasteAll_apply, h] at heq

/-- The copy depends on the places that are origins only. -/
theorem pasteAll_congr {i j : ℕ} (h : ∀ o, origin ps i j = some o → src o.1 o.2 = src' o.1 o.2) :
    pasteAll src dst ps i j = pasteAll src' dst ps i j := by
  rw [pasteAll_apply, pasteAll_apply]
  cases horigin : origin ps i j with
  | none => rfl
  | some o => exact h o horigin

/-- When the copy determines the plane, every place of the plane is the origin of some position. -/
theorem exists_origin_of_injective {a b : α} (hab : a ≠ b) {stride m n : ℕ} {dst : Vector α m}
    (h : ∀ src src' : Vector α n, pasteAll (pixel stride src) (pixel stride dst) ps =
      pasteAll (pixel stride src') (pixel stride dst) ps → src = src')
    {i' j' : ℕ} (hj' : j' < stride) (hi' : i' * stride + j' < n) :
    ∃ i j, origin ps i j = some (i', j') := by
  by_contra hnone
  push Not at hnone
  -- a marked sample that no position shows
  have heq := h (Vector.replicate n a) ((Vector.replicate n a).set (i' * stride + j') b hi') (by
    ext i j : 2
    apply pasteAll_congr
    intro o ho
    unfold pixel
    split_ifs with hj
    · have hne : i' * stride + j' ≠ o.1 * stride + o.2 := by
        intro hindex
        obtain ⟨rfl, rfl⟩ := eq_of_index_eq hj' hj hindex
        exact hnone i j ho
      rw [Vector.getElem?_set_ne _ hne]
    · rfl)
  have hmark := congrArg (fun v => v[i' * stride + j']?) heq
  rw [Vector.getElem?_replicate, if_pos hi', Vector.getElem?_set_self hi'] at hmark
  exact hab (Option.some.inj hmark)

end Mvr.Patch
