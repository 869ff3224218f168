import Mvr.CfJson.Print
import Mvr.Player.Equiv.Handler

/-!
# The text of the reply

`send_layout_cfg` prints its reply into a buffer of 10240 bytes and sends what `strlen` finds there.
A record takes at most 63 bytes however long its three numbers are, so the 128 records of a full
table and everything around them leave room to spare, and the whole text is sent
(`sendLayoutCfg_sentText`).
-/

namespace Mvr.Player

/-- `sizeof(buffer)`. -/
def replyBufferSize : ℕ := 1024 * 10

/-- The text `send_layout_cfg` sends for its `root`: the contents of the buffer up to the first
zero. -/
def sentText (root : CfJson) : Checked (List Char) := do
  let buffer ← root.printPreallocated replyBufferSize
  pure (buffer.takeWhile fun c => c ≠ '\x00')

/-- A text that leaves room for the terminating zero is sent as a whole. -/
theorem sentText_eq_ok {root : CfJson} {text : List Char} (h : root.print = .ok text)
    (hlen : byteLength text < replyBufferSize) : sentText root = .ok text := by
  have htake : text.takeWhile (fun c => c ≠ '\x00') = text := by
    refine List.takeWhile_eq_self_iff.mpr fun c hc => decide_eq_true ?_
    rintro rfl
    exact CfJson.nul_not_mem_print h hc
  rw [sentText, CfJson.printPreallocated, h, Checked.ok_bind, if_pos hlen, pure_bind, htake]
  rfl

/-! ### The printed reply -/

open CfJson (memberText objectText arrayText printString commaSeparated)

/-- The text of a record. -/
def PosRecord.text (r : PosRecord) : List Char :=
  objectText [memberText "rowNo" (CText.formatDigits r.rowNo.toInt),
    memberText "colNo" (CText.formatDigits r.colNo.toInt),
    memberText "inputId" (CText.formatDigits r.inputId.toInt)]

theorem PosRecord.print_json (r : PosRecord) : r.json.print = .ok r.text := rfl

theorem printItems_map_json (rs : List PosRecord) :
    CfJson.printItems (rs.map PosRecord.json) = .ok (rs.map PosRecord.text) := by
  induction rs with
  | nil => rfl
  | cons r rs ih =>
    rw [List.map_cons, CfJson.printItems, r.print_json, Checked.ok_bind, ih, Checked.ok_bind]
    rfl

/-- The text of a reply. -/
def replyText (mvrMode : String) (rows cols : Int32) (rs : List PosRecord) : List Char :=
  objectText [memberText "topic" (printString "layout_cfg"),
    memberText "mvr_mode" (printString mvrMode),
    memberText "layout" (objectText [memberText "rows" (CText.formatDigits rows.toInt),
      memberText "cols" (CText.formatDigits cols.toInt)]),
    memberText "pos" (arrayText (rs.map PosRecord.text))]

theorem print_replyJson (mvrMode : String) (rows cols : Int32) (rs : List PosRecord) :
    (replyJson mvrMode rows cols (rs.map PosRecord.json)).print =
      .ok (replyText mvrMode rows cols rs) := by
  simp only [replyJson, CfJson.print, CfJson.printMembers, printItems_map_json rs, pure_bind,
    Checked.ok_bind]
  rfl

/-! ### Its length -/

/-- A record takes at most 30 bytes and three numbers. -/
theorem PosRecord.byteLength_text_le (r : PosRecord) : byteLength r.text ≤ 63 := by
  have h1 := CText.byteLength_formatDigits_le r.rowNo
  have h2 := CText.byteLength_formatDigits_le r.colNo
  have h3 := CText.byteLength_formatDigits_le r.inputId
  have k1 : byteLength (printString "rowNo") = 7 := by decide
  have k2 : byteLength (printString "colNo") = 7 := by decide
  have k3 : byteLength (printString "inputId") = 9 := by decide
  rw [PosRecord.text, CfJson.byteLength_objectText, CfJson.byteLength_commaSeparated_cons_cons,
    CfJson.byteLength_commaSeparated_cons_cons, CfJson.commaSeparated_singleton,
    CfJson.byteLength_memberText, CfJson.byteLength_memberText, CfJson.byteLength_memberText, k1,
    k2, k3]
  omega

/-- The records of a full table take 64 bytes each, at most. -/
theorem byteLength_posText_le {rs : List PosRecord} (hrs : rs.length ≤ maxLayerNums) :
    byteLength (arrayText (rs.map PosRecord.text)) ≤ 8194 := by
  have hmax : maxLayerNums = 128 := rfl
  have hrecord : ∀ text ∈ rs.map PosRecord.text, byteLength text ≤ 63 := by
    intro text htext
    obtain ⟨r, -, rfl⟩ := List.mem_map.mp htext
    exact r.byteLength_text_le
  have hle := CfJson.byteLength_commaSeparated_le hrecord
  rw [List.length_map] at hle
  rw [CfJson.byteLength_arrayText]
  omega

/-- A reply of at most 128 records fits the buffer. -/
theorem byteLength_replyText_lt {mvrMode : String}
    (hmode : mvrMode = "unfixed" ∨ mvrMode = "fixed") (rows cols : Int32) {rs : List PosRecord}
    (hrs : rs.length ≤ maxLayerNums) :
    byteLength (replyText mvrMode rows cols rs) < replyBufferSize := by
  have h1 := CText.byteLength_formatDigits_le rows
  have h2 := CText.byteLength_formatDigits_le cols
  have hm : byteLength (printString mvrMode) ≤ 9 := by
    rcases hmode with rfl | rfl <;> decide
  have hpos := byteLength_posText_le hrs
  have k1 : byteLength (printString "topic") = 7 := by decide
  have k2 : byteLength (printString "layout_cfg") = 12 := by decide
  have k3 : byteLength (printString "mvr_mode") = 10 := by decide
  have k4 : byteLength (printString "layout") = 8 := by decide
  have k5 : byteLength (printString "rows") = 6 := by decide
  have k6 : byteLength (printString "cols") = 6 := by decide
  have k7 : byteLength (printString "pos") = 5 := by decide
  unfold replyText replyBufferSize
  simp only [CfJson.byteLength_objectText, CfJson.byteLength_commaSeparated_cons_cons,
    CfJson.commaSeparated_singleton, CfJson.byteLength_memberText, k1, k2, k3, k4, k5, k6, k7]
  omega

/-! ### The reply of the program -/

theorem length_records_le (bound : ℕ) (cols : Int32) (tab : LayoutTab) :
    (records bound cols tab).length ≤ bound :=
  (List.length_filterMap_le ..).trans (List.length_range).le

/-- The reply for a grid, a table and a mode. -/
def layoutReply (mvrMode : String) (rows cols : Int32) (tab : LayoutTab) : CfJson :=
  replyJson mvrMode rows cols ((records (rows * cols).toInt.toNat cols tab).map PosRecord.json)

/-- The reply to a client: the layout that is set, or the identity in a grid of 16 × 8 cells. -/
def Globals.reply (g : Globals) : CfJson :=
  if g.conf.json.getString "mvr_mode" "unfixed" = "unfixed" then
    layoutReply "unfixed" g.dstVerticalBlks g.dstHorizontalBlks g.layerLayoutTab
  else
    layoutReply (g.conf.json.getString "mvr_mode" "unfixed") 16 8 identityTab

theorem sendLayoutCfg_eq_ok {g : Globals}
    (hgrid : IsGrid g.dstVerticalBlks g.dstHorizontalBlks) :
    ∃ g', sendLayoutCfg g = .ok (g', g.reply) := by
  unfold Globals.reply
  by_cases hmode : g.conf.json.getString "mvr_mode" "unfixed" = "unfixed"
  · have hcells : (g.dstVerticalBlks * g.dstHorizontalBlks).toInt.toNat ≤ maxLayerNums := by
      rw [hgrid.toInt_mul]
      exact hgrid.cells_le_toNat
    rw [if_pos hmode, sendLayoutCfg_of_unfixed hmode,
      layoutPos_eq_ok hcells (CInt.ne_zero_of_pos hgrid.cols_pos), Checked.ok_bind]
    exact ⟨_, rfl⟩
  · -- the whole table is sent, with 16 rows of 8
    have hcells : ((16 : Int32) * 8).toInt.toNat ≤ maxLayerNums := by decide
    rw [if_neg hmode]
    unfold sendLayoutCfg
    dsimp only
    rw [if_neg hmode, layoutPos_eq_ok hcells (by decide), Checked.ok_bind]
    exact ⟨_, rfl⟩

/-- The reply for a table of 128 entries is printed into less than the buffer. -/
theorem print_layoutReply {mvrMode : String} (hmode : mvrMode = "unfixed" ∨ mvrMode = "fixed")
    {rows cols : Int32} (hcells : (rows * cols).toInt.toNat ≤ maxLayerNums) (tab : LayoutTab) :
    ∃ text, (layoutReply mvrMode rows cols tab).print = .ok text ∧
      byteLength text < replyBufferSize :=
  ⟨_, print_replyJson .., byteLength_replyText_lt hmode rows cols
    ((length_records_le _ _ _).trans hcells)⟩

/-- **The reply fits its buffer**: for every grid, table and mode the printed reply is shorter than
the buffer, and it is sent as a whole. -/
theorem sendLayoutCfg_sentText (g : Globals)
    (hgrid : IsGrid g.dstVerticalBlks g.dstHorizontalBlks)
    (hmode : g.conf.json.getString "mvr_mode" "unfixed" = "unfixed" ∨
      g.conf.json.getString "mvr_mode" "unfixed" = "fixed") :
    ∃ g' text, sendLayoutCfg g = .ok (g', g.reply) ∧ g.reply.print = .ok text ∧
      byteLength text < replyBufferSize ∧ sentText g.reply = .ok text := by
  obtain ⟨g', hsend⟩ := sendLayoutCfg_eq_ok hgrid
  have hprint : ∃ text, g.reply.print = .ok text ∧ byteLength text < replyBufferSize := by
    unfold Globals.reply
    split_ifs with hunfixed
    · refine print_layoutReply (Or.inl rfl) ?_ _
      rw [hgrid.toInt_mul]
      exact hgrid.cells_le_toNat
    · exact print_layoutReply hmode (by decide) _
  obtain ⟨text, hprint, hlen⟩ := hprint
  exact ⟨g', text, hsend, hprint, hlen, sentText_eq_ok hprint hlen⟩

/-- The table of a start, in a 16 × 8 grid. -/
def fullTable : Globals :=
  { Globals.initial (confWithMode "unfixed") fun _ => none with dstVerticalBlks := 16 }

theorem sendLayoutCfg_sentText_fullTable :
    ∃ g' text, sendLayoutCfg fullTable = .ok (g', fullTable.reply) ∧
      fullTable.reply.print = .ok text ∧ byteLength text < replyBufferSize ∧
      sentText fullTable.reply = .ok text :=
  sendLayoutCfg_sentText fullTable ⟨by decide, by decide, by decide⟩ (by decide)

end Mvr.Player
