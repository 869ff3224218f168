import Mvr.LastWrite.Basic
import Mathlib.Data.Prod.Lex
import Mathlib.Algebra.Order.Ring.Nat
import Mathlib.Algebra.Order.Group.Nat

/-!
# Layouts of a grid

A layout of a `rows × cols` grid shows at most one source in each cell.  It can be asked for by a
list of writes to cells, where a later write to a cell overrides an earlier one and a write of
`none` empties it (`ofWrites`), and it can be listed as the writes of its non-empty cells in
row-major order (`writes`).  The listing is a canonical form of all the requests for the layout:
`mem_writes` and `pairwise_writes` determine it, and asking for it gives the layout back
(`ofWrites_writes`).
-/

namespace Mvr

/-- A layout of a grid: the source shown in each cell. -/
@[ext]
structure GridLayout (α : Type*) where
  rows : ℕ
  cols : ℕ
  cell : ℕ → ℕ → Option α
  /-- Nothing is shown outside the grid. -/
  cell_eq_none : ∀ a b, ¬ (a < rows ∧ b < cols) → cell a b = none

namespace GridLayout

variable {α : Type*}

/-- The layout that a list of writes asks for. -/
def ofWrites (rows cols : ℕ) (ws : List ((ℕ × ℕ) × Option α)) : GridLayout α where
  rows := rows
  cols := cols
  cell a b := if a < rows ∧ b < cols then (lastWrite ws (a, b)).join else none
  cell_eq_none _ _ h := if_neg h

/-- The write of the cell with row-major index `i`, if that cell is not empty. -/
def writeAt (L : GridLayout α) (i : ℕ) : Option ((ℕ × ℕ) × Option α) :=
  (L.cell (i / L.cols) (i % L.cols)).map fun v => ((i / L.cols, i % L.cols), some v)

/-- The writes of the non-empty cells, in row-major order. -/
def writes (L : GridLayout α) : List ((ℕ × ℕ) × Option α) :=
  (List.range (L.rows * L.cols)).filterMap L.writeAt

/-! ### Row-major indices -/

/-- The index of a cell of the grid is below the number of cells. -/
theorem index_lt {rows cols a b : ℕ} (ha : a < rows) (hb : b < cols) :
    a * cols + b < rows * cols :=
  calc a * cols + b < a * cols + cols := by omega
    _ = (a + 1) * cols := by rw [Nat.succ_mul]
    _ ≤ rows * cols := Nat.mul_le_mul_right cols ha

theorem index_div {cols a b : ℕ} (hb : b < cols) : (a * cols + b) / cols = a := by
  rw [Nat.mul_comm, Nat.mul_add_div (by omega), Nat.div_eq_of_lt hb, Nat.add_zero]

theorem index_mod {cols a b : ℕ} (hb : b < cols) : (a * cols + b) % cols = b := by
  rw [Nat.mul_comm, Nat.mul_add_mod, Nat.mod_eq_of_lt hb]

/-- Different cells have different indices. -/
theorem index_inj {cols a b a' b' : ℕ} (hb : b < cols) (hb' : b' < cols)
    (h : a * cols + b = a' * cols + b') : a = a' ∧ b = b' := by
  have hdiv : (a * cols + b) / cols = (a' * cols + b') / cols := by rw [h]
  have hmod : (a * cols + b) % cols = (a' * cols + b') % cols := by rw [h]
  rw [index_div hb, index_div hb'] at hdiv
  rw [index_mod hb, index_mod hb'] at hmod
  exact ⟨hdiv, hmod⟩

/-! ### The canonical list of writes -/

theorem writeAt_eq_some_iff (L : GridLayout α) (i : ℕ) (w : (ℕ × ℕ) × Option α) :
    L.writeAt i = some w ↔
      w.1 = (i / L.cols, i % L.cols) ∧ w.2 = L.cell (i / L.cols) (i % L.cols) ∧ w.2 ≠ none := by
  unfold writeAt
  obtain ⟨k, v⟩ := w
  cases hcell : L.cell (i / L.cols) (i % L.cols) with
  | none =>
    simp only [Option.map_none, reduceCtorEq, false_iff]
    rintro ⟨-, rfl, h⟩
    exact h rfl
  | some s =>
    simp only [Option.map_some, Option.some.injEq, Prod.mk.injEq]
    constructor
    · rintro ⟨rfl, rfl⟩
      exact ⟨rfl, rfl, by simp⟩
    · rintro ⟨rfl, rfl, -⟩
      exact ⟨rfl, rfl⟩

/-- The list holds exactly the non-empty cells, each with its source. -/
theorem mem_writes (L : GridLayout α) (a b : ℕ) (v : Option α) :
    ((a, b), v) ∈ L.writes ↔ v = L.cell a b ∧ v ≠ none := by
  unfold writes
  simp only [List.mem_filterMap, List.mem_range, writeAt_eq_some_iff, Prod.mk.injEq]
  constructor
  · rintro ⟨i, -, ⟨rfl, rfl⟩, hv, hne⟩
    exact ⟨hv, hne⟩
  · rintro ⟨hv, hne⟩
    obtain ⟨ha, hb⟩ : a < L.rows ∧ b < L.cols := by
      by_contra h
      exact hne (hv.trans (L.cell_eq_none a b h))
    refine ⟨a * L.cols + b, index_lt ha hb, ?_⟩
    rw [index_div hb, index_mod hb]
    exact ⟨⟨rfl, rfl⟩, hv, hne⟩

/-- The list is strictly increasing in row-major order. -/
theorem pairwise_writes (L : GridLayout α) :
    L.writes.Pairwise fun w w' => toLex w.1 < toLex w'.1 := by
  unfold writes
  rw [List.pairwise_filterMap]
  refine List.pairwise_lt_range.imp fun {i j} hij w hw w' hw' => ?_
  obtain ⟨hk, -, -⟩ := (L.writeAt_eq_some_iff i w).mp hw
  obtain ⟨hk', -, -⟩ := (L.writeAt_eq_some_iff j w').mp hw'
  rw [hk, hk', Prod.Lex.toLex_lt_toLex]
  rcases Nat.lt_or_ge (i / L.cols) (j / L.cols) with hlt | hge
  · -- the rows differ
    exact Or.inl hlt
  · -- in the same row the columns increase
    right
    have heq : i / L.cols = j / L.cols := le_antisymm (Nat.div_le_div_right hij.le) hge
    refine ⟨heq, ?_⟩
    have hi := Nat.div_add_mod i L.cols
    have hj := Nat.div_add_mod j L.cols
    dsimp only
    rw [heq] at hi
    omega

/-- Listing a layout and asking for the list gives the layout back. -/
theorem ofWrites_writes (L : GridLayout α) : ofWrites L.rows L.cols L.writes = L := by
  -- the order is strict, so no cell is written twice
  have hnd : (L.writes.map Prod.fst).Nodup := by
    rw [List.nodup_iff_pairwise_ne, List.pairwise_map]
    refine L.pairwise_writes.imp fun {w w'} h heq => ?_
    rw [heq] at h
    exact lt_irrefl _ h
  refine GridLayout.ext rfl rfl ?_
  funext a b
  show (if a < L.rows ∧ b < L.cols then (lastWrite L.writes (a, b)).join else none) = L.cell a b
  split_ifs with hab
  · cases hcell : L.cell a b with
    | none =>
      have hnone : lastWrite L.writes (a, b) = none := by
        rw [lastWrite_eq_none_iff]
        rintro ⟨k, v⟩ hmem rfl
        obtain ⟨hv, hne⟩ := (L.mem_writes a b v).mp hmem
        exact hne (hv.trans hcell)
      rw [hnone]
      rfl
    | some s =>
      have hsome : lastWrite L.writes (a, b) = some (some s) := by
        rw [lastWrite_eq_some_iff_of_nodup hnd, L.mem_writes]
        exact ⟨hcell.symm, by simp⟩
      rw [hsome]
      rfl
  · -- outside the grid both show nothing
    exact (L.cell_eq_none a b hab).symm

end GridLayout

end Mvr
