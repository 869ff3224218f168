import Mathlib.Data.List.Induction
import Mathlib.Data.List.Nodup
import Mathlib.Data.Vector.Basic
import Mathlib.Logic.Function.Basic
import Mathlib.Tactic.Common

/-!
# The last write to a key

A list of `(key, value)` writes, applied in order to a store, leaves at each key the value of the
last write to it.  `lastWrite ws k` is that value, `none` when no write names `k`; a store built
by overwriting reads back as `lastWrite` (`foldl_update` for partial maps,
`getElem_foldl_setIfInBounds` for arrays).
-/

namespace Mvr

variable {κ ι α β : Type*} [DecidableEq κ] [DecidableEq ι]

/-- The value of the last write to `k`. -/
def lastWrite (ws : List (κ × α)) (k : κ) : Option α :=
  (ws.filter fun w => w.1 = k).getLast?.map Prod.snd

@[simp] theorem lastWrite_nil (k : κ) : lastWrite ([] : List (κ × α)) k = none := rfl

/-- The last element of the list decides, if it names the key. -/
theorem lastWrite_append_singleton (ws : List (κ × α)) (w : κ × α) (k : κ) :
    lastWrite (ws ++ [w]) k = if w.1 = k then some w.2 else lastWrite ws k := by
  unfold lastWrite
  rw [List.filter_append]
  split_ifs with h <;> simp [h]

theorem lastWrite_eq_none_iff {ws : List (κ × α)} {k : κ} :
    lastWrite ws k = none ↔ ∀ w ∈ ws, w.1 ≠ k := by
  unfold lastWrite
  simp

theorem mem_of_lastWrite_eq_some {ws : List (κ × α)} {k : κ} {v : α}
    (h : lastWrite ws k = some v) : (k, v) ∈ ws := by
  unfold lastWrite at h
  rw [Option.map_eq_some_iff] at h
  obtain ⟨⟨k', v'⟩, hlast, rfl⟩ := h
  have hmem := List.mem_of_getLast? hlast
  rw [List.mem_filter, decide_eq_true_eq] at hmem
  obtain ⟨hmem, rfl⟩ := hmem
  exact hmem

/-- Over a list that writes no key twice, the last write to a key is the only one. -/
theorem lastWrite_eq_some_iff_of_nodup {ws : List (κ × α)} (hnd : (ws.map Prod.fst).Nodup)
    {k : κ} {v : α} : lastWrite ws k = some v ↔ (k, v) ∈ ws := by
  refine ⟨mem_of_lastWrite_eq_some, fun hmem => ?_⟩
  cases hlast : lastWrite ws k with
  | none => exact absurd rfl (lastWrite_eq_none_iff.mp hlast (k, v) hmem)
  | some v' =>
    have heq := List.inj_on_of_nodup_map hnd (mem_of_lastWrite_eq_some hlast) hmem rfl
    rw [(Prod.mk.inj heq).2]

/-- The last write of a list of records, through their key and value. -/
theorem lastWrite_map (f : β → κ) (g : β → α) (rs : List β) (k : κ) :
    lastWrite (rs.map fun r => (f r, g r)) k = (rs.filter fun r => f r = k).getLast?.map g := by
  unfold lastWrite
  rw [List.filter_map, List.getLast?_map, Option.map_map]
  rfl

theorem lastWrite_map_value (g : α → β) (ws : List (κ × α)) (k : κ) :
    lastWrite (ws.map fun w => (w.1, g w.2)) k = (lastWrite ws k).map g := by
  rw [lastWrite_map, lastWrite, Option.map_map]
  rfl

/-- Renaming the keys by a map that is injective on those that occur renames the last writes. -/
theorem lastWrite_map_key (f : κ → ι) (ws : List (κ × α)) (k : κ)
    (hinj : ∀ w ∈ ws, f w.1 = f k → w.1 = k) :
    lastWrite (ws.map fun w => (f w.1, w.2)) (f k) = lastWrite ws k := by
  rw [lastWrite_map, lastWrite]
  congr 2
  apply List.filter_congr
  intro w hw
  rw [decide_eq_decide]
  exact ⟨hinj w hw, fun h => congrArg f h⟩

/-- The writes of the keys below a bound that have a value. -/
theorem lastWrite_filterMap_range (n : ℕ) (f : ℕ → Option α) (i : ℕ) :
    lastWrite ((List.range n).filterMap fun j => (f j).map fun v => (j, v)) i =
      if i < n then f i else none := by
  induction n with
  | zero => simp
  | succ n ih =>
    rw [List.range_succ, List.filterMap_append]
    cases hf : f n with
    | none =>
      -- the last key has no value: it is not written
      rw [show [n].filterMap (fun j => (f j).map fun v => (j, v)) = [] by simp [hf],
        List.append_nil, ih]
      rcases eq_or_ne i n with rfl | hi
      · simp [hf]
      · simp only [show i < n + 1 ↔ i < n by omega]
    | some v =>
      -- the last key is written last, and by no other write
      rw [show [n].filterMap (fun j => (f j).map fun v => (j, v)) = [(n, v)] by simp [hf],
        lastWrite_append_singleton, ih]
      rcases eq_or_ne i n with rfl | hi
      · simp [hf]
      · rw [if_neg (fun h => hi h.symm)]
        simp only [show i < n + 1 ↔ i < n by omega]

/-- A partial map overwritten by a list of writes holds the last write at each key. -/
theorem foldl_update (ws : List (κ × α)) (m : κ → Option α) (k : κ) :
    (ws.foldl (fun (m : κ → Option α) w => Function.update m w.1 (some w.2)) m) k =
      (lastWrite ws k).or (m k) := by
  induction ws using List.reverseRecOn with
  | nil => rfl
  | append_singleton ws w ih =>
    -- the last write decides at its own key and nowhere else
    rw [List.foldl_append, List.foldl_cons, List.foldl_nil, Function.update_apply, ih,
      lastWrite_append_singleton]
    by_cases hk : w.1 = k
    · rw [if_pos hk.symm, if_pos hk]
      rfl
    · rw [if_neg (Ne.symm hk), if_neg hk]

/-- An array overwritten by a list of writes holds the last write at each of its indices. -/
theorem getElem_foldl_setIfInBounds {n : ℕ} (ws : List (ℕ × α)) (t : Vector α n) {i : ℕ}
    (hi : i < n) :
    (ws.foldl (fun t w => t.setIfInBounds w.1 w.2) t)[i] = (lastWrite ws i).getD t[i] := by
  induction ws using List.reverseRecOn with
  | nil => rfl
  | append_singleton ws w ih =>
    rw [List.foldl_append, List.foldl_cons, List.foldl_nil, Vector.getElem_setIfInBounds, ih,
      lastWrite_append_singleton]
    split_ifs <;> rfl

end Mvr
