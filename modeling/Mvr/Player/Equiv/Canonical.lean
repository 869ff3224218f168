import Mvr.Player.Equiv.Handler

/-!
# The reply is the canonical request

For an accepted request the records of the reply are the canonical list of writes of the layout it
asks for (`records_of_shows`), so the reply is the canonical request of that layout
(`wsOnCliReadText_of_accepted`).  A canonical request is accepted and asks for the layout it was
made from (`layout_canonical`); since the table is determined by the layout it shows
(`shows_inj`), handling the reply changes nothing.
-/

namespace Mvr.Player

/-! ### Tables and the layouts they show -/

theorem sourceOf_ne (v : Int32) : sourceOf v ≠ some (-1) := by
  unfold sourceOf
  split_ifs with h
  · simp
  · simpa using h

theorem sourceOf_eq_some_iff {v w : Int32} (hw : w ≠ -1) : sourceOf v = some w ↔ v = w := by
  unfold sourceOf
  split_ifs with h
  · simp [h, Ne.symm hw]
  · simp

theorem sourceOf_inj {v v' : Int32} (h : sourceOf v = sourceOf v') : v = v' := by
  unfold sourceOf at h
  split_ifs at h with h1 h2
  · rw [h1, h2]
  · exact Option.some.inj h

theorem sourceOf_getD {s : Option Int32} (h : s ≠ some (-1)) : sourceOf (s.getD (-1)) = s := by
  cases s with
  | none => rfl
  | some v => exact if_neg fun hv => h (congrArg some hv)

/-- The table is determined by the layout it shows. -/
theorem shows_inj {tab tab' : LayoutTab} {L : GridLayout Int32} (h : Shows tab L)
    (h' : Shows tab' L) : tab = tab' := by
  ext i hi
  have heq : entry tab i = entry tab' i := (h i hi).trans (h' i hi).symm
  rw [entry_of_lt tab hi, entry_of_lt tab' hi] at heq
  exact sourceOf_inj heq

/-- The records of the cells are the canonical writes of the layout. -/
theorem records_of_shows {rows cols : Int32} (hg : IsGrid rows cols) {tab : LayoutTab}
    {L : GridLayout Int32} (hrows : L.rows = rows.toInt.toNat) (hcols : L.cols = cols.toInt.toNat)
    (h : Shows tab L) :
    records (rows * cols).toInt.toNat cols tab = L.writes.map PosRecord.ofWrite := by
  have hmax : maxLayerNums = 128 := rfl
  have hle := hg.cells_le_toNat
  have hc := hg.cols_pos
  unfold records GridLayout.writes
  rw [hg.toInt_mul, ← hrows, ← hcols, List.map_filterMap]
  rw [← hrows, ← hcols] at hle
  apply List.filterMap_congr
  intro i hi
  have hcell : i < L.rows * L.cols := List.mem_range.mp hi
  unfold recordAt GridLayout.writeAt
  rw [h i (by omega), if_pos hcell, CInt.ofNat_div (by omega) (by omega),
    CInt.ofNat_mod (by omega) (by omega), ← hcols, Option.map_map]
  rfl

/-! ### Canonical requests -/

section Canonical

variable {L : GridLayout Int32} {w : (ℕ × ℕ) × Option Int32}

/-- The canonical writes of a layout name cells of the grid, and they are not empty. -/
theorem mem_grid_of_mem_writes (hw : w ∈ L.writes) :
    w.1.1 < L.rows ∧ w.1.2 < L.cols ∧ w.2 = L.cell w.1.1 w.1.2 ∧ w.2 ≠ none := by
  obtain ⟨⟨a, b⟩, v⟩ := w
  obtain ⟨hv, hne⟩ := (L.mem_writes a b v).mp hw
  by_contra hout
  refine hne (hv.trans (L.cell_eq_none a b fun hin => hout ⟨hin.1, hin.2, hv, hne⟩))

theorem PosRecord.toInt_rowNo_ofWrite (h : w.1.1 < 2 ^ 31) :
    (PosRecord.ofWrite w).rowNo.toInt = w.1.1 := Int32.toInt_ofNat_of_lt h

theorem PosRecord.toInt_colNo_ofWrite (h : w.1.2 < 2 ^ 31) :
    (PosRecord.ofWrite w).colNo.toInt = w.1.2 := Int32.toInt_ofNat_of_lt h

theorem PosRecord.write_ofWrite (ha : w.1.1 < 2 ^ 31) (hb : w.1.2 < 2 ^ 31)
    (hv : w.2 ≠ some (-1)) : (PosRecord.ofWrite w).write = w := by
  unfold PosRecord.write
  rw [PosRecord.toInt_rowNo_ofWrite ha, PosRecord.toInt_colNo_ofWrite hb, Int.toNat_natCast,
    Int.toNat_natCast, show sourceOf (PosRecord.ofWrite w).inputId = w.2 from sourceOf_getD hv]

end Canonical

section Accepted

variable {cfg : LayoutCfg}

theorem LayoutCfg.layout_cell_ne (cfg : LayoutCfg) (a b : ℕ) :
    cfg.layout.cell a b ≠ some (-1) := by
  rw [LayoutCfg.layout_cell]
  split_ifs
  · intro h
    have hlast : lastWrite (cfg.pos.map PosRecord.write) (a, b) = some (some (-1)) :=
      Option.join_eq_some_iff.mp h
    -- a record with -1 writes an empty cell
    obtain ⟨r, -, hr⟩ := List.mem_map.mp (mem_of_lastWrite_eq_some hlast)
    exact sourceOf_ne r.inputId (congrArg Prod.snd hr)
  · simp

theorem LayoutCfg.Accepted.rows_lt (h : cfg.Accepted) : cfg.rows.toInt.toNat < 2 ^ 31 := by
  have := cfg.rows.toInt_lt
  have := h.isGrid.rows_pos
  omega

theorem LayoutCfg.Accepted.cols_lt (h : cfg.Accepted) : cfg.cols.toInt.toNat < 2 ^ 31 := by
  have := cfg.cols.toInt_lt
  have := h.isGrid.cols_pos
  omega

theorem LayoutCfg.Accepted.rows_canonical (h : cfg.Accepted) :
    (LayoutCfg.canonical cfg.layout).rows = cfg.rows :=
  CInt.ofNat_toNat (by have := h.isGrid.rows_pos; omega)

theorem LayoutCfg.Accepted.cols_canonical (h : cfg.Accepted) :
    (LayoutCfg.canonical cfg.layout).cols = cfg.cols :=
  CInt.ofNat_toNat (by have := h.isGrid.cols_pos; omega)

theorem LayoutCfg.Accepted.write_ofWrite (h : cfg.Accepted) {w : (ℕ × ℕ) × Option Int32}
    (hw : w ∈ cfg.layout.writes) : (PosRecord.ofWrite w).write = w := by
  obtain ⟨ha, hb, hv, -⟩ := mem_grid_of_mem_writes hw
  have hrows := h.rows_lt
  have hcols := h.cols_lt
  rw [LayoutCfg.layout_rows] at ha
  rw [LayoutCfg.layout_cols] at hb
  refine PosRecord.write_ofWrite (by omega) (by omega) ?_
  rw [hv]
  exact cfg.layout_cell_ne _ _

/-- The canonical request is accepted. -/
theorem LayoutCfg.Accepted.canonical (h : cfg.Accepted) :
    (LayoutCfg.canonical cfg.layout).Accepted where
  isGrid := by
    rw [h.rows_canonical, h.cols_canonical]
    exact h.isGrid
  inGrid := by
    rw [h.rows_canonical, h.cols_canonical]
    intro r hr
    obtain ⟨w, hw, rfl⟩ := List.mem_map.mp hr
    obtain ⟨ha, hb, -, -⟩ := mem_grid_of_mem_writes hw
    rw [LayoutCfg.layout_rows] at ha
    rw [LayoutCfg.layout_cols] at hb
    have hrows := h.rows_lt
    have hcols := h.cols_lt
    have hrow := PosRecord.toInt_rowNo_ofWrite (w := w) (by omega)
    have hcol := PosRecord.toInt_colNo_ofWrite (w := w) (by omega)
    exact ⟨by omega, by omega, by omega, by omega⟩

/-- The canonical request asks for the layout it was made from. -/
theorem LayoutCfg.Accepted.layout_canonical (h : cfg.Accepted) :
    (LayoutCfg.canonical cfg.layout).layout = cfg.layout := by
  have hwrites : (LayoutCfg.canonical cfg.layout).pos.map PosRecord.write = cfg.layout.writes := by
    show (cfg.layout.writes.map PosRecord.ofWrite).map PosRecord.write = cfg.layout.writes
    rw [List.map_map]
    exact (List.map_congr_left fun w hw => h.write_ofWrite hw).trans (List.map_id _)
  have hlayout : ∀ c : LayoutCfg, c.layout =
      GridLayout.ofWrites c.rows.toInt.toNat c.cols.toInt.toNat (c.pos.map PosRecord.write) :=
    fun _ => rfl
  rw [hlayout (LayoutCfg.canonical cfg.layout), hwrites, h.rows_canonical, h.cols_canonical]
  exact GridLayout.ofWrites_writes cfg.layout

/-! ### The records of the canonical request -/

/-- A cell of the layout shows the source of its last record. -/
theorem LayoutCfg.Accepted.layout_cell_eq (h : cfg.Accepted) {a b : ℕ}
    (ha : a < cfg.rows.toInt.toNat) (hb : b < cfg.cols.toInt.toNat) :
    cfg.layout.cell a b =
      (cfg.lastOf (Int32.ofNat a) (Int32.ofNat b)).bind fun r => sourceOf r.inputId := by
  have hrows := h.rows_lt
  have hcols := h.cols_lt
  have ha' : (Int32.ofNat a).toInt = a := Int32.toInt_ofNat_of_lt (by omega)
  have hb' : (Int32.ofNat b).toInt = b := Int32.toInt_ofNat_of_lt (by omega)
  have hfilter : cfg.pos.filter (fun r => (r.rowNo.toInt.toNat, r.colNo.toInt.toNat) = (a, b))
      = cfg.pos.filter fun r => r.rowNo = Int32.ofNat a ∧ r.colNo = Int32.ofNat b := by
    apply List.filter_congr
    intro r hr
    obtain ⟨hr0, -, hc0, -⟩ := h.inGrid r hr
    rw [decide_eq_decide, Prod.mk.injEq, ← Int32.toInt_inj, ← Int32.toInt_inj, ha', hb']
    omega
  rw [LayoutCfg.layout_cell, if_pos ⟨ha, hb⟩]
  unfold PosRecord.write LayoutCfg.lastOf
  rw [lastWrite_map (fun r : PosRecord => (r.rowNo.toInt.toNat, r.colNo.toInt.toNat)), hfilter]
  cases (cfg.pos.filter fun r => r.rowNo = Int32.ofNat a ∧ r.colNo = Int32.ofNat b).getLast? with
  | none => rfl
  | some r => rfl

theorem LayoutCfg.mem_of_lastOf {rowNo colNo : Int32} {r : PosRecord}
    (h : cfg.lastOf rowNo colNo = some r) : r ∈ cfg.pos ∧ r.rowNo = rowNo ∧ r.colNo = colNo := by
  have hmem := List.mem_of_getLast? h
  rw [List.mem_filter, decide_eq_true_eq] at hmem
  exact hmem

/-- The canonical request holds exactly the cells whose last record is not empty, each with that
record. -/
theorem LayoutCfg.Accepted.mem_canonical (h : cfg.Accepted) (r : PosRecord) :
    r ∈ (LayoutCfg.canonical cfg.layout).pos ↔
      r.inputId ≠ -1 ∧ cfg.lastOf r.rowNo r.colNo = some r := by
  constructor
  · intro hr
    obtain ⟨w, hw, rfl⟩ := List.mem_map.mp hr
    obtain ⟨ha, hb, hv, hne⟩ := mem_grid_of_mem_writes hw
    rw [h.layout_cell_eq ha hb] at hv
    obtain ⟨v, hv'⟩ := Option.ne_none_iff_exists'.mp hne
    rw [hv'] at hv
    -- the cell shows its last record, which is the one listed
    obtain ⟨s, hs, hsource⟩ := Option.bind_eq_some_iff.mp hv.symm
    obtain ⟨-, hrow, hcol⟩ := LayoutCfg.mem_of_lastOf hs
    unfold sourceOf at hsource
    split_ifs at hsource with hinput
    have heq : PosRecord.ofWrite w = s := by
      obtain ⟨sr, sc, si⟩ := s
      obtain rfl : sr = _ := hrow
      obtain rfl : sc = _ := hcol
      obtain rfl : si = v := Option.some.inj hsource
      rw [PosRecord.ofWrite, hv']
      rfl
    rw [heq]
    exact ⟨hinput, by rw [← heq]; exact hs.trans (congrArg some heq.symm)⟩
  · rintro ⟨hinput, hlast⟩
    obtain ⟨hmem, -, -⟩ := LayoutCfg.mem_of_lastOf hlast
    obtain ⟨hr0, hr1, hc0, hc1⟩ := h.inGrid r hmem
    have hsource : sourceOf r.inputId = some r.inputId := if_neg hinput
    -- the record is the last of its cell, so its write is a canonical one
    refine List.mem_map.mpr ⟨r.write, ?_, ?_⟩
    · refine (cfg.layout.mem_writes _ _ _).mpr ⟨?_, ?_⟩
      · rw [h.layout_cell_eq (by omega) (by omega), CInt.ofNat_toNat hr0, CInt.ofNat_toNat hc0,
          hlast]
        rfl
      · rw [hsource]
        simp
    · unfold PosRecord.write PosRecord.ofWrite
      rw [CInt.ofNat_toNat hr0, CInt.ofNat_toNat hc0, hsource]
      rfl

/-- The canonical request is strictly increasing in row-major order. -/
theorem LayoutCfg.Accepted.pairwise_canonical (h : cfg.Accepted) :
    (LayoutCfg.canonical cfg.layout).pos.Pairwise PosRecord.Precedes := by
  have hrows := h.rows_lt
  have hcols := h.cols_lt
  refine List.pairwise_map.mpr (cfg.layout.pairwise_writes.imp_of_mem ?_)
  intro w w' hw hw' hlt
  obtain ⟨ha, hb, -, -⟩ := mem_grid_of_mem_writes hw
  obtain ⟨ha', hb', -, -⟩ := mem_grid_of_mem_writes hw'
  rw [LayoutCfg.layout_rows] at ha ha'
  rw [LayoutCfg.layout_cols] at hb hb'
  have hr := PosRecord.toInt_rowNo_ofWrite (w := w) (by omega)
  have hc := PosRecord.toInt_colNo_ofWrite (w := w) (by omega)
  have hr' := PosRecord.toInt_rowNo_ofWrite (w := w') (by omega)
  have hc' := PosRecord.toInt_colNo_ofWrite (w := w') (by omega)
  unfold PosRecord.Precedes
  rw [Int32.lt_iff_toInt_lt, Int32.lt_iff_toInt_lt, ← Int32.toInt_inj, hr, hc, hr', hc']
  rcases Prod.Lex.toLex_lt_toLex.mp hlt with h1 | ⟨h1, h2⟩
  · exact Or.inl (by omega)
  · exact Or.inr ⟨by omega, by omega⟩

end Accepted

/-! ### The reply to an accepted request -/

section Reply

variable (parser : JsonParser) (g : Globals) {cfg : LayoutCfg}

theorem editable_applied (cfg : LayoutCfg) :
    Editable (g.applied parser cfg).conf.json ↔ Editable g.conf.json :=
  editable_saved _ parser _

/-- The handler stores an accepted request, saves it and replies with the canonical request. -/
theorem wsOnCliReadText_of_accepted (hedit : Editable g.conf.json) {json : CfJson}
    (hjson : IsLayoutCfg json cfg) (h : cfg.Accepted) :
    wsOnCliReadText parser g (some json) =
      .ok (g.applied parser cfg, some (LayoutCfg.canonical cfg.layout).json) := by
  have hcols : cfg.cols ≠ 0 := CInt.ne_zero_of_pos h.isGrid.cols_pos
  have hcells : (cfg.rows * cfg.cols).toInt.toNat ≤ maxLayerNums := by
    rw [h.isGrid.toInt_mul]
    exact h.isGrid.cells_le_toNat
  have hedit' : Editable (g.applied parser cfg).conf.json :=
    (editable_applied parser g cfg).mpr hedit
  have hpos : layoutPos cfg.rows cfg.cols cfg.tab =
      .ok ((LayoutCfg.canonical cfg.layout).pos.map PosRecord.json) := by
    rw [layoutPos_eq_ok hcells hcols, records_of_shows h.isGrid rfl rfl h.shows_tab]
    rfl
  have hsend : sendLayoutCfg (g.applied parser cfg) =
      .ok (g.applied parser cfg, (LayoutCfg.canonical cfg.layout).json) := by
    rw [sendLayoutCfg_of_unfixed hedit'.2]
    show (do let pos ← layoutPos cfg.rows cfg.cols cfg.tab; _) = _
    rw [hpos, LayoutCfg.json, h.rows_canonical, h.cols_canonical]
    rfl
  rw [wsOnCliReadText_of_isLayoutCfg parser g hjson, if_pos hedit,
    applyLayoutCfg_of_accepted parser g h, Checked.ok_bind]
  dsimp only
  rw [hsend]
  rfl

/-- Storing the canonical request again changes nothing. -/
theorem applied_canonical (h : cfg.Accepted) :
    (g.applied parser cfg).applied parser (LayoutCfg.canonical cfg.layout) =
      g.applied parser cfg := by
  -- both tables show the layout asked for
  have htab : (LayoutCfg.canonical cfg.layout).tab = cfg.tab := by
    have hshows := h.canonical.shows_tab
    rw [h.layout_canonical] at hshows
    exact shows_inj hshows h.shows_tab
  unfold Globals.applied
  rw [htab, h.rows_canonical, h.cols_canonical]
  generalize sourcesTree cfg.cols cfg.tab = sources
  exact saved_saved { g with
    dstVerticalBlks := cfg.rows
    dstHorizontalBlks := cfg.cols
    layerLayoutTab := cfg.tab } parser sources

/-- **The reply is the canonical request**, and handling it as a request leaves everything
unchanged and is answered with the same reply. -/
theorem wsOnCliReadText_reply_canonical (hedit : Editable g.conf.json) (json : CfJson)
    (hjson : IsLayoutCfg json cfg) (h : cfg.Accepted) :
    ∃ g' reply cfg', wsOnCliReadText parser g (some json) = .ok (g', some reply) ∧
      IsLayoutCfg reply cfg' ∧ cfg'.IsCanonicalFor cfg ∧
      wsOnCliReadText parser g' (some reply) = .ok (g', some reply) := by
  have hedit' : Editable (g.applied parser cfg).conf.json :=
    (editable_applied parser g cfg).mpr hedit
  refine ⟨_, _, _, wsOnCliReadText_of_accepted parser g hedit hjson h,
    LayoutCfg.isLayoutCfg_json _, ?_, ?_⟩
  · exact ⟨h.rows_canonical, h.cols_canonical, h.pairwise_canonical, h.mem_canonical⟩
  · rw [wsOnCliReadText_of_accepted parser _ hedit' (LayoutCfg.isLayoutCfg_json _) h.canonical,
      applied_canonical parser g h, h.layout_canonical]

end Reply

/-- A request that fills a cell, empties it again and fills the cell before it. -/
theorem wsOnCliReadText_reply_duplicates :
    ∃ g' reply cfg', wsOnCliReadText (.ofText "\x7b\x7d\n" .empty)
        (.initial (confWithMode "unfixed") fun _ => none)
        (some (LayoutCfg.json ⟨1, 2, [⟨0, 1, 5⟩, ⟨0, 1, -1⟩, ⟨0, 0, 3⟩]⟩)) = .ok (g', some reply) ∧
      IsLayoutCfg reply cfg' ∧
      cfg'.IsCanonicalFor ⟨1, 2, [⟨0, 1, 5⟩, ⟨0, 1, -1⟩, ⟨0, 0, 3⟩]⟩ ∧
      wsOnCliReadText (.ofText "\x7b\x7d\n" .empty) g' (some reply) = .ok (g', some reply) := by
  refine wsOnCliReadText_reply_canonical _ _ (by decide) _ (LayoutCfg.isLayoutCfg_json _) ⟨?_, ?_⟩
  · exact ⟨by decide, by decide, by decide⟩
  · intro r hr
    simp only [List.mem_cons, List.not_mem_nil, or_false] at hr
    rcases hr with rfl | rfl | rfl <;> exact ⟨by decide, by decide, by decide, by decide⟩

end Mvr.Player
