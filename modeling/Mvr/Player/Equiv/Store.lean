import Mvr.Player.Request
import Mvr.CInt.Basic

/-!
# Storing the records of a request

`LayoutCfg.store` is the loop of the handler over the records of a decoded request
(`storeLoop_eq`).  It stays inside the table exactly when every index does (`store_isOk_iff`), and
then the table holds the last write to each index (`getElem_tab`).  For an accepted request the
indices are the row-major ones, and the table shows the layout asked for (`shows_tab`).
-/

namespace Mvr.Player

/-! ### Decoding -/

theorem topicIs_of_getString {json : CfJson} {s : String} (h : json.getString "topic" = .ok s)
    (topic : String) : topicIs json topic = .ok (decide (s = topic)) := by
  have hcontains := CfJson.contains_of_getString h
  unfold topicIs
  rw [if_pos hcontains, h, Checked.ok_bind]
  rfl

theorem getString_of_topicIs {json : CfJson} {topic : String} (h : topicIs json topic = .ok true) :
    json.getString "topic" = .ok topic := by
  unfold topicIs at h
  split_ifs at h with hcontains
  · obtain ⟨s, hs, hpure⟩ := Checked.bind_eq_ok.mp h
    rw [hs, of_decide_eq_true (Except.ok.inj hpure)]
  · cases Except.ok.inj h

theorem storeRecord_of_isPosRecord {item : CfJson} {r : PosRecord} (h : IsPosRecord item r)
    (cols : Int32) (tab : LayoutTab) :
    storeRecord cols tab item = Checked.set tab (r.index cols) r.inputId := by
  unfold storeRecord PosRecord.index
  rw [h.rowNo, h.colNo, h.inputId]
  rfl

/-- The records of a request stored into a cleared table. -/
def LayoutCfg.store (cfg : LayoutCfg) : Checked LayoutTab :=
  cfg.pos.foldlM (fun tab r => Checked.set tab (r.index cfg.cols) r.inputId) clearedTab

/-- The handler's loop over the items of the message is the loop over the records. -/
theorem storeLoop_eq {items : List CfJson} {cfg : LayoutCfg}
    (h : List.Forall₂ IsPosRecord items cfg.pos) :
    (List.range items.length).foldlM (fun tab i => do
      let item ← (CfJson.array items).getItemFromArray i
      storeRecord cfg.cols tab item) clearedTab = cfg.store := by
  rw [Checked.foldlM_range_getElem _ _ fun i hi => CfJson.getItemFromArray_array hi]
  unfold LayoutCfg.store
  -- the induction is over the two lists, with any table so far
  generalize clearedTab = tab
  generalize cfg.pos = pos at h
  induction h generalizing tab with
  | nil => rfl
  | cons hr _ ih =>
    rw [List.foldlM_cons, List.foldlM_cons, storeRecord_of_isPosRecord hr]
    exact congrArg _ (funext ih)

/-! ### The table -/

/-- The table after the records are stored, if none of them is outside it. -/
def LayoutCfg.tab (cfg : LayoutCfg) : LayoutTab :=
  cfg.pos.foldl (fun tab r => tab.setIfInBounds (r.index cfg.cols).toNat r.inputId) clearedTab

/-- The store stays in bounds exactly when every index does. -/
theorem LayoutCfg.store_isOk_iff (cfg : LayoutCfg) :
    cfg.store.IsOk ↔ ∀ r ∈ cfg.pos, 0 ≤ r.index cfg.cols ∧ r.index cfg.cols < maxLayerNums :=
  Checked.foldlM_isOk_iff (fun _ => True) trivial
    (fun tab r _ _ => Checked.set_isOk_iff tab (r.index cfg.cols) r.inputId)
    (fun _ _ _ _ _ _ => trivial)

theorem LayoutCfg.store_eq_ok {cfg : LayoutCfg}
    (h : ∀ r ∈ cfg.pos, 0 ≤ r.index cfg.cols ∧ r.index cfg.cols < maxLayerNums) :
    cfg.store = .ok cfg.tab :=
  Checked.foldlM_eq_ok _ fun tab r hr => Checked.set_eq_ok tab (h r hr) r.inputId

/-- The table holds the last record of each index, -1 where there is none. -/
theorem LayoutCfg.getElem_tab (cfg : LayoutCfg) {i : ℕ} (hi : i < maxLayerNums) :
    cfg.tab[i] =
      (lastWrite (cfg.pos.map fun r => ((r.index cfg.cols).toNat, r.inputId)) i).getD (-1) := by
  have h := getElem_foldl_setIfInBounds
    (cfg.pos.map fun r => ((r.index cfg.cols).toNat, r.inputId)) clearedTab hi
  rw [List.foldl_map] at h
  unfold LayoutCfg.tab
  rw [h, clearedTab, Vector.getElem_replicate]

theorem entry_of_lt (tab : LayoutTab) {i : ℕ} (hi : i < maxLayerNums) :
    entry tab i = sourceOf tab[i] := by
  simp [entry, Vector.getElem?_eq_getElem hi]

/-! ### Accepted requests -/

section Accepted

variable {rows cols : Int32} {r : PosRecord}

theorem IsGrid.cells_le_toNat (h : IsGrid rows cols) :
    rows.toInt.toNat * cols.toInt.toNat ≤ maxLayerNums := by
  have hr := h.rows_pos
  have hc := h.cols_pos
  have hle := h.cells_le
  zify
  rwa [Int.toNat_of_nonneg (by omega), Int.toNat_of_nonneg (by omega)]

/-- The number of cells does not overflow. -/
theorem IsGrid.toInt_mul (h : IsGrid rows cols) :
    (rows * cols).toInt.toNat = rows.toInt.toNat * cols.toInt.toNat := by
  have hr := h.rows_pos
  have hc := h.cols_pos
  have hle := h.cells_le
  have hmax : maxLayerNums = 128 := rfl
  have hnn : 0 ≤ rows.toInt * cols.toInt := Int.mul_nonneg (by omega) (by omega)
  rw [CInt.toInt_mul_of_lt (by omega) (by omega), Int.toNat_mul (by omega) (by omega)]

/-- The index of a record in the grid is the row-major index of its cell. -/
theorem PosRecord.InGrid.index_eq (hg : IsGrid rows cols) (h : r.InGrid rows cols) :
    r.index cols = (r.rowNo.toInt.toNat * cols.toInt.toNat + r.colNo.toInt.toNat : ℕ) := by
  obtain ⟨hr0, hr1, hc0, hc1⟩ := h
  have hmax : maxLayerNums = 128 := rfl
  have hcells := hg.cells_le_toNat
  have hlt : r.rowNo.toInt.toNat * cols.toInt.toNat + r.colNo.toInt.toNat
      < rows.toInt.toNat * cols.toInt.toNat := GridLayout.index_lt (by omega) (by omega)
  -- the index is that of a cell, so neither step of the computation overflows
  have hcast : ((r.rowNo.toInt.toNat * cols.toInt.toNat + r.colNo.toInt.toNat : ℕ) : ℤ)
      = r.rowNo.toInt * cols.toInt + r.colNo.toInt := by
    push_cast
    rw [Int.toNat_of_nonneg hr0, Int.toNat_of_nonneg hc0, Int.toNat_of_nonneg (by omega)]
  unfold PosRecord.index
  rw [CInt.toInt_mul_add_of_lt hr0 (by omega) hc0 (by omega), hcast]

theorem PosRecord.InGrid.index_mem (hg : IsGrid rows cols) (h : r.InGrid rows cols) :
    0 ≤ r.index cols ∧ r.index cols < maxLayerNums := by
  have hcells := hg.cells_le_toNat
  obtain ⟨hr0, hr1, hc0, hc1⟩ := h
  have hlt : r.rowNo.toInt.toNat * cols.toInt.toNat + r.colNo.toInt.toNat
      < rows.toInt.toNat * cols.toInt.toNat := GridLayout.index_lt (by omega) (by omega)
  rw [PosRecord.InGrid.index_eq hg ⟨hr0, hr1, hc0, hc1⟩]
  omega

end Accepted

/-- An accepted request is stored without a fault. -/
theorem LayoutCfg.Accepted.store_eq_ok {cfg : LayoutCfg} (h : cfg.Accepted) :
    cfg.store = .ok cfg.tab :=
  LayoutCfg.store_eq_ok fun r hr => (h.inGrid r hr).index_mem h.isGrid

/-- The entry of a cell is the last record of that cell. -/
theorem LayoutCfg.Accepted.getElem_tab_index {cfg : LayoutCfg} (h : cfg.Accepted) {a b : ℕ}
    (hb : b < cfg.cols.toInt.toNat) (hi : a * cfg.cols.toInt.toNat + b < maxLayerNums) :
    sourceOf cfg.tab[a * cfg.cols.toInt.toNat + b] =
      (lastWrite (cfg.pos.map PosRecord.write) (a, b)).join := by
  -- the writes by index are the writes by cell, each cell renamed to its index
  have hkeys : (cfg.pos.map fun r => ((r.index cfg.cols).toNat, r.inputId))
      = (cfg.pos.map fun r => ((r.rowNo.toInt.toNat, r.colNo.toInt.toNat), r.inputId)).map
          fun w => (w.1.1 * cfg.cols.toInt.toNat + w.1.2, w.2) := by
    rw [List.map_map]
    apply List.map_congr_left
    intro r hr
    rw [(h.inGrid r hr).index_eq h.isGrid]
    rfl
  have hvals : cfg.pos.map PosRecord.write
      = (cfg.pos.map fun r => ((r.rowNo.toInt.toNat, r.colNo.toInt.toNat), r.inputId)).map
          fun w => (w.1, sourceOf w.2) := by
    rw [List.map_map]
    rfl
  rw [LayoutCfg.getElem_tab, hkeys, hvals, lastWrite_map_value]
  rw [lastWrite_map_key (fun k : ℕ × ℕ => k.1 * cfg.cols.toInt.toNat + k.2) _ (a, b)]
  · cases lastWrite (cfg.pos.map fun r =>
        ((r.rowNo.toInt.toNat, r.colNo.toInt.toNat), r.inputId)) (a, b) with
    | none => rfl
    | some v => rfl
  · intro w hw heq
    -- the renaming is injective on the cells of the grid
    obtain ⟨r, hr, rfl⟩ := List.mem_map.mp hw
    have hin := h.inGrid r hr
    have hlt : r.colNo.toInt.toNat < cfg.cols.toInt.toNat := by
      have := hin.colNo_nonneg
      have := hin.colNo_lt
      omega
    obtain ⟨h1, h2⟩ := GridLayout.index_inj hlt hb heq
    exact Prod.ext h1 h2

theorem LayoutCfg.layout_rows (cfg : LayoutCfg) : cfg.layout.rows = cfg.rows.toInt.toNat := rfl

theorem LayoutCfg.layout_cols (cfg : LayoutCfg) : cfg.layout.cols = cfg.cols.toInt.toNat := rfl

theorem LayoutCfg.layout_cell (cfg : LayoutCfg) (a b : ℕ) :
    cfg.layout.cell a b = if a < cfg.rows.toInt.toNat ∧ b < cfg.cols.toInt.toNat then
      (lastWrite (cfg.pos.map PosRecord.write) (a, b)).join else none := rfl

/-- The table of an accepted request shows the layout it asks for. -/
theorem LayoutCfg.Accepted.shows_tab {cfg : LayoutCfg} (h : cfg.Accepted) :
    Shows cfg.tab cfg.layout := by
  intro i hi
  rw [entry_of_lt cfg.tab hi]
  have hcols : 0 < cfg.cols.toInt.toNat := by
    have := h.isGrid.cols_pos
    omega
  by_cases hcell : i < cfg.rows.toInt.toNat * cfg.cols.toInt.toNat
  · -- a cell of the grid
    have hidx : i / cfg.cols.toInt.toNat * cfg.cols.toInt.toNat + i % cfg.cols.toInt.toNat = i :=
      Nat.div_add_mod' i _
    have hrow : i / cfg.cols.toInt.toNat < cfg.rows.toInt.toNat :=
      Nat.div_lt_of_lt_mul (by rwa [Nat.mul_comm])
    have hcol : i % cfg.cols.toInt.toNat < cfg.cols.toInt.toNat := Nat.mod_lt _ hcols
    have hentry := h.getElem_tab_index (a := i / cfg.cols.toInt.toNat) hcol (by omega)
    simp only [hidx] at hentry
    rw [hentry, LayoutCfg.layout_rows, LayoutCfg.layout_cols, if_pos hcell,
      LayoutCfg.layout_cell, if_pos ⟨hrow, hcol⟩]
  · -- beyond the grid no record is stored
    rw [LayoutCfg.layout_rows, LayoutCfg.layout_cols, if_neg hcell, LayoutCfg.getElem_tab]
    have hnone : lastWrite (cfg.pos.map fun r => ((r.index cfg.cols).toNat, r.inputId)) i
        = none := by
      rw [lastWrite_eq_none_iff]
      intro w hw heq
      obtain ⟨r, hr, rfl⟩ := List.mem_map.mp hw
      obtain ⟨hr0, hr1, hc0, hc1⟩ := h.inGrid r hr
      have hlt : r.rowNo.toInt.toNat * cfg.cols.toInt.toNat + r.colNo.toInt.toNat
          < cfg.rows.toInt.toNat * cfg.cols.toInt.toNat :=
        GridLayout.index_lt (by omega) (by omega)
      rw [(h.inGrid r hr).index_eq h.isGrid] at heq
      omega
    rw [hnone]
    rfl

end Mvr.Player
