import Mvr.Player.Equiv.Store
import Mvr.PTree.Equiv

/-!
# Gathering the entries of the table

`write_layout_conf` and `send_layout_cfg` run the same loop over the table, with a different bound
and a different accumulator: `gather cols tab push` visits the indices below a bound and pushes
row, column and input of every entry that is not -1.  It stays in bounds exactly when the bound
does not exceed the table, and it divides by zero exactly when it meets an entry in a grid of no
columns (`gather_isOk_iff`); otherwise it collects the entries in order (`gather_eq_ok`).
-/

namespace Mvr.Player

/-- One round: the entry at `i` is pushed with its row and column, unless it is -1. -/
def gatherStep {σ : Type} (cols : Int32) (tab : LayoutTab)
    (push : σ → Int32 → Int32 → Int32 → σ) (acc : σ) (i : ℕ) : Checked σ := do
  let inputId ← Checked.get tab i
  if inputId = -1 then
    pure acc
  else
    let row ← Checked.div (Int32.ofNat i) cols
    let col ← Checked.mod (Int32.ofNat i) cols
    pure (push acc row col inputId)

/-- The loop over the indices below `bound`. -/
def gather {σ : Type} (bound : ℕ) (cols : Int32) (tab : LayoutTab)
    (push : σ → Int32 → Int32 → Int32 → σ) (init : σ) : Checked σ :=
  (List.range bound).foldlM (gatherStep cols tab push) init

theorem layoutSources_eq_gather (cols : Int32) (tab : LayoutTab) :
    layoutSources cols tab = gather maxLayerNums cols tab
      (fun sources row col inputId => sources.pushBack "" (sourceTree row col inputId))
      PTree.empty := by
  unfold layoutSources gather gatherStep
  simp only [ne_eq, ite_not]

theorem layoutPos_eq_gather (rows cols : Int32) (tab : LayoutTab) :
    layoutPos rows cols tab = gather (rows * cols).toInt.toNat cols tab
      (fun pos rowNo colNo inputId => pos ++ [posJson rowNo colNo inputId]) [] := rfl

/-- Row, column and input of the entry at `i`. -/
def recordAt (cols : Int32) (tab : LayoutTab) (i : ℕ) : Option PosRecord :=
  (entry tab i).map fun v => ⟨Int32.ofNat i / cols, Int32.ofNat i % cols, v⟩

/-- The records of the entries below `bound`. -/
def records (bound : ℕ) (cols : Int32) (tab : LayoutTab) : List PosRecord :=
  (List.range bound).filterMap (recordAt cols tab)

section Gather

variable {σ : Type} {cols : Int32} {tab : LayoutTab} {push : σ → Int32 → Int32 → Int32 → σ}

theorem entry_eq_none_iff {i : ℕ} (hi : i < maxLayerNums) :
    entry tab i = none ↔ tab[i] = -1 := by
  rw [entry_of_lt tab hi, sourceOf]
  split_ifs with h <;> simp [h]

theorem gatherStep_of_ge (acc : σ) {i : ℕ} (hi : maxLayerNums ≤ i) :
    ¬ (gatherStep cols tab push acc i).IsOk := by
  unfold gatherStep
  rw [Checked.isOk_bind_iff]
  rintro ⟨v, hv, -⟩
  have hget := (Checked.get_isOk_iff tab i).mp ⟨v, hv⟩
  omega

theorem gatherStep_of_lt (acc : σ) {i : ℕ} (hi : i < maxLayerNums) :
    gatherStep cols tab push acc i = if tab[i] = -1 then pure acc else (do
      let row ← Checked.div (Int32.ofNat i) cols
      let col ← Checked.mod (Int32.ofNat i) cols
      pure (push acc row col tab[i])) := by
  unfold gatherStep
  rw [Checked.get_natCast tab hi, Checked.ok_bind]

theorem gatherStep_isOk_iff (acc : σ) (i : ℕ) :
    (gatherStep cols tab push acc i).IsOk ↔
      i < maxLayerNums ∧ (entry tab i ≠ none → cols ≠ 0) := by
  rcases Nat.lt_or_ge i maxLayerNums with hi | hi
  · rw [gatherStep_of_lt acc hi, Ne, entry_eq_none_iff hi]
    by_cases hv : tab[i] = -1
    · -- an empty entry is skipped, whatever the grid
      simp [hv, hi]
    · -- any other entry is divided by the columns
      rw [if_neg hv]
      rcases eq_or_ne cols 0 with rfl | hc
      · simp [Checked.div, Checked.error_bind, hv]
      · rw [Checked.div_eq_ok _ hc, Checked.mod_eq_ok _ hc]
        simp [Checked.ok_bind, hc, hi]
  · exact iff_of_false (gatherStep_of_ge acc hi) (by omega)

/-- The loop stays in bounds and never divides by zero exactly when it stays inside the table and
meets no entry in a grid of no columns. -/
theorem gather_isOk_iff (bound : ℕ) (init : σ) :
    (gather bound cols tab push init).IsOk ↔
      bound ≤ maxLayerNums ∧ ∀ i < bound, entry tab i ≠ none → cols ≠ 0 := by
  unfold gather
  rw [Checked.foldlM_isOk_iff (fun _ => True) trivial
    (fun acc i _ _ => gatherStep_isOk_iff acc i) (fun _ _ _ _ _ _ => trivial)]
  simp only [List.mem_range]
  constructor
  · intro h
    refine ⟨?_, fun i hi => (h i hi).2⟩
    by_contra hgt
    -- a larger bound visits the index behind the table
    have := (h maxLayerNums (by omega)).1
    omega
  · rintro ⟨hle, h⟩ i hi
    exact ⟨by omega, h i hi⟩

/-- In a grid with columns the loop pushes the records in order. -/
theorem gather_eq_ok {bound : ℕ} (hb : bound ≤ maxLayerNums) (hc : cols ≠ 0) (init : σ) :
    gather bound cols tab push init = .ok
      ((records bound cols tab).foldl (fun acc r => push acc r.rowNo r.colNo r.inputId)
        init) := by
  unfold gather records
  rw [List.foldl_filterMap]
  apply Checked.foldlM_eq_ok init
  intro acc i hi
  have hlt : i < maxLayerNums := by
    have := List.mem_range.mp hi
    omega
  rw [gatherStep_of_lt acc hlt, recordAt, entry_of_lt tab hlt, sourceOf]
  split_ifs with hv
  · rfl
  · rw [Checked.div_eq_ok _ hc, Checked.mod_eq_ok _ hc]
    rfl

theorem gather_faultsIn (bound : ℕ) (init : σ) :
    (gather bound cols tab push init).FaultsIn Fault.IsAccess := by
  have hdivide : ∀ (v : Int32) (acc : σ) (i : ℕ), Checked.FaultsIn Fault.IsAccess (do
      let row ← Checked.div (Int32.ofNat i) cols
      let col ← Checked.mod (Int32.ofNat i) cols
      pure (push acc row col v)) := fun v acc i =>
    (Checked.div_faultsIn _ _).bind fun row _ =>
      (Checked.mod_faultsIn _ _).bind fun col _ => Checked.faultsIn_ok _ _
  unfold gather gatherStep
  apply Checked.foldlM_faultsIn
  intro acc i _
  apply (Checked.get_faultsIn tab i).bind
  intro v _
  split_ifs
  · exact Checked.faultsIn_ok _ _
  · exact hdivide v acc i

end Gather

/-! ### The saved records and the reply -/

/-- The record as `write_layout_conf` stores it. -/
def PosRecord.tree (r : PosRecord) : PTree := sourceTree r.rowNo r.colNo r.inputId

/-- The record as `send_layout_cfg` sends it. -/
def PosRecord.json (r : PosRecord) : CfJson := posJson r.rowNo r.colNo r.inputId

/-- The records appended to a node. -/
theorem foldl_pushBack (rs : List PosRecord) (s : String) (cs : List (String × PTree)) :
    rs.foldl (fun t r => t.pushBack "" (sourceTree r.rowNo r.colNo r.inputId)) (PTree.node s cs)
      = PTree.node s (cs ++ rs.map fun r => ("", r.tree)) := by
  induction rs generalizing cs with
  | nil => simp
  | cons r rs ih =>
    rw [List.foldl_cons, List.map_cons, PTree.pushBack, PTree.data_node, PTree.children_node, ih,
      List.append_assoc]
    rfl

/-- The node of all records of the table. -/
def sourcesTree (cols : Int32) (tab : LayoutTab) : PTree :=
  .node "" ((records maxLayerNums cols tab).map fun r => ("", r.tree))

theorem layoutSources_eq_ok {cols : Int32} (hc : cols ≠ 0) (tab : LayoutTab) :
    layoutSources cols tab = .ok (sourcesTree cols tab) := by
  rw [layoutSources_eq_gather, gather_eq_ok le_rfl hc, PTree.empty, foldl_pushBack,
    List.nil_append, sourcesTree]

theorem layoutSources_isOk_iff (cols : Int32) (tab : LayoutTab) :
    (layoutSources cols tab).IsOk ↔ cols ≠ 0 ∨ ∀ i < maxLayerNums, entry tab i = none := by
  rw [layoutSources_eq_gather, gather_isOk_iff]
  by_cases hc : cols = 0
  · simp [hc]
  · simp [hc]

theorem layoutPos_eq_ok {rows cols : Int32} (hb : (rows * cols).toInt.toNat ≤ maxLayerNums)
    (hc : cols ≠ 0) (tab : LayoutTab) :
    layoutPos rows cols tab =
      .ok ((records (rows * cols).toInt.toNat cols tab).map PosRecord.json) := by
  rw [layoutPos_eq_gather, gather_eq_ok hb hc]
  congr 1
  have h : ∀ (rs : List PosRecord) (init : List CfJson),
      rs.foldl (fun acc r => acc ++ [posJson r.rowNo r.colNo r.inputId]) init
        = init ++ rs.map PosRecord.json := fun rs => by
    induction rs with
    | nil => simp
    | cons r rs ih =>
      intro init
      rw [List.foldl_cons, ih, List.map_cons, List.append_assoc]
      rfl
  rw [h, List.nil_append]

/-- The reply loop faults exactly when the grid exceeds the table: a grid of no columns has no cell
to divide for. -/
theorem layoutPos_isOk_iff (rows cols : Int32) (tab : LayoutTab) :
    (layoutPos rows cols tab).IsOk ↔ (rows * cols).toInt ≤ maxLayerNums := by
  rw [layoutPos_eq_gather, gather_isOk_iff]
  constructor
  · rintro ⟨h, -⟩
    omega
  · intro h
    refine ⟨by omega, ?_⟩
    rintro i hi - rfl
    simp at hi

end Mvr.Player
