import Mvr.Vif.Equiv.ReorganizeYuv

/-!
# The chroma plane of a composed frame

A luma sample at row `y` and column `x` shares its chroma pair with its neighbours: the pair is at
row `y / 2`, bytes `2 * (x / 2)` and `2 * (x / 2) + 1`.  The composer moves a block by bytes of the
chroma plane, from the halved row of the block.  When the height of a block is odd, its last chroma
row belongs to the block below as well; when the width is odd, a pair at its edge belongs to the
block beside it.

`ChromaAligned` says when this does no harm, and `reorganizeYUV_chroma_iff` that it is exactly then
that every frame keeps its colours.  One direction shows that all the patches that cover a byte
agree about it (`chroma_agree`); the other reads the condition off single samples, comparing two
luma samples that share a pair.
-/

namespace Mvr.Vif

open Patch

namespace WebPara

variable (webPara : WebPara)

/-- The row and column of the block shown in the block of row `a` and column `c`. -/
def cell (a c : ℕ) : Option (ℕ × ℕ) :=
  (webPara.source (a * webPara.cols + c)).map fun s => (s / webPara.cols, s % webPara.cols)

/-- The chroma patch between two blocks. -/
def chromaBlock (a c a' c' : ℕ) : Patch where
  row := a * webPara.blkH / 2
  col := c * webPara.blkW
  srcRow := a' * webPara.blkH / 2
  srcCol := c' * webPara.blkW
  height := (webPara.blkH + 1) / 2
  width := webPara.blkW

/-- The layout does not tear a chroma row or a chroma pair apart.  With blocks of odd height a block
is shown in a row of the same parity, and below a block in an even row there is nothing or the block
below its source.  With blocks of odd width a block is shown in a column of the same parity, next to
the block it shares a pair with. -/
structure ChromaAligned : Prop where
  row_mod : webPara.blkH % 2 = 1 → ∀ a < webPara.rows, ∀ c < webPara.cols, ∀ a' c',
    webPara.cell a c = some (a', c') → a' % 2 = a % 2
  below : webPara.blkH % 2 = 1 → ∀ a, a + 1 < webPara.rows → ∀ c < webPara.cols, ∀ a' c',
    webPara.cell a c = some (a', c') → a % 2 = 0 →
      webPara.cell (a + 1) c = none ∨ webPara.cell (a + 1) c = some (a' + 1, c')
  col_mod : webPara.blkW % 2 = 1 → ∀ a < webPara.rows, ∀ c < webPara.cols, ∀ a' c',
    webPara.cell a c = some (a', c') → c' % 2 = c % 2
  right : webPara.blkW % 2 = 1 → ∀ a < webPara.rows, ∀ c < webPara.cols, ∀ a' c',
    webPara.cell a c = some (a', c') → c % 2 = 0 →
      c + 1 < webPara.cols ∧ webPara.cell a (c + 1) = some (a', c' + 1)
  left : webPara.blkW % 2 = 1 → ∀ a < webPara.rows, ∀ c, c + 1 < webPara.cols → ∀ a' c',
    webPara.cell a (c + 1) = some (a', c') → c % 2 = 0 →
      ∃ c'', c' = c'' + 1 ∧ webPara.cell a c = some (a', c'')

/-- The pair of every luma sample of a shown block is the pair of the sample it was copied from. -/
def ChromaFollowsLuma (inF out : FrameData) : Prop :=
  ∀ row < webPara.rows * webPara.blkH, ∀ col < webPara.cols * webPara.blkW, ∀ s,
    webPara.source (row / webPara.blkH * webPara.cols + col / webPara.blkW) = some s → ∀ b < 2,
      pixel viW out.uv (row / 2) (2 * (col / 2) + b) =
        pixel viW inF.uv ((s / webPara.cols * webPara.blkH + row % webPara.blkH) / 2)
          (2 * ((s % webPara.cols * webPara.blkW + col % webPara.blkW) / 2) + b)

/-- The same about the place a chroma byte comes from, by the cells of the grid. -/
def OriginFollows : Prop :=
  ∀ a < webPara.rows, ∀ c < webPara.cols, ∀ a' c', webPara.cell a c = some (a', c') →
    ∀ y < webPara.blkH, ∀ x < webPara.blkW, ∀ b < 2,
      origin webPara.chromaPatches ((a * webPara.blkH + y) / 2)
          (2 * ((c * webPara.blkW + x) / 2) + b) =
        some ((a' * webPara.blkH + y) / 2, 2 * ((c' * webPara.blkW + x) / 2) + b)

end WebPara

variable {webPara : WebPara}

theorem cell_eq_some_iff {a c a' c' : ℕ} :
    webPara.cell a c = some (a', c') ↔ ∃ s, webPara.source (a * webPara.cols + c) = some s ∧
      s / webPara.cols = a' ∧ s % webPara.cols = c' := by
  unfold WebPara.cell
  simp only [Option.map_eq_some_iff, Prod.mk.injEq]

theorem cell_lt (hweb : webPara.Valid) {a c a' c' : ℕ} (ha : a < webPara.rows)
    (hc : c < webPara.cols) (h : webPara.cell a c = some (a', c')) :
    a' < webPara.rows ∧ c' < webPara.cols := by
  obtain ⟨s, hs, rfl, rfl⟩ := cell_eq_some_iff.mp h
  have hi := GridLayout.index_lt ha hc
  rw [Nat.mul_comm webPara.rows] at hi
  exact ⟨WebPara.Valid.div_lt (hweb.source_lt hi hs), hweb.mod_lt s⟩

/-- The patches, by the cells of the grid. -/
theorem mem_chromaPatches_iff (hweb : webPara.Valid) {p : Patch} :
    p ∈ webPara.chromaPatches ↔ ∃ a < webPara.rows, ∃ c < webPara.cols, ∃ a' c',
      webPara.cell a c = some (a', c') ∧ webPara.chromaBlock a c a' c' = p := by
  unfold WebPara.chromaPatches
  rw [mem_patches]
  constructor
  · rintro ⟨i, hi, s, hs, rfl⟩
    refine ⟨i / webPara.cols, WebPara.Valid.div_lt hi, i % webPara.cols, hweb.mod_lt i,
      s / webPara.cols, s % webPara.cols, cell_eq_some_iff.mpr ⟨s, ?_, rfl, rfl⟩, rfl⟩
    rw [Nat.div_add_mod', hs]
  · rintro ⟨a, ha, c, hc, a', c', hcell, rfl⟩
    obtain ⟨s, hs, rfl, rfl⟩ := cell_eq_some_iff.mp hcell
    have hi := GridLayout.index_lt ha hc
    rw [Nat.mul_comm webPara.rows] at hi
    refine ⟨a * webPara.cols + c, hi, s, hs, ?_⟩
    unfold WebPara.chromaPatch WebPara.chromaBlock
    rw [GridLayout.index_div hc, GridLayout.index_mod hc]

/-! ### From frames to origins -/

/-- Every frame keeps its colours exactly when every chroma byte comes from the right place. -/
theorem chromaFollowsLuma_iff (hweb : webPara.Valid) :
    (∀ inF outF, ∃ out, reorganizeYUV inF outF webPara = .ok (out, 0) ∧
      webPara.ChromaFollowsLuma inF out) ↔ webPara.OriginFollows := by
  have hbw := blkW_pos hweb
  have hbh := blkH_pos hweb
  constructor
  · intro h a ha c hc a' c' hcell y hy x hx b hb
    obtain ⟨ha', hc'⟩ := cell_lt hweb ha hc hcell
    obtain ⟨s, hs, rfl, rfl⟩ := cell_eq_some_iff.mp hcell
    have hrow : a * webPara.blkH + y < webPara.rows * webPara.blkH := GridLayout.index_lt ha hy
    have hcol : c * webPara.blkW + x < webPara.cols * webPara.blkW := GridLayout.index_lt hc hx
    have hrow' : s / webPara.cols * webPara.blkH + y < webPara.rows * webPara.blkH :=
      GridLayout.index_lt ha' hy
    have hcol' : s % webPara.cols * webPara.blkW + x < webPara.cols * webPara.blkW :=
      GridLayout.index_lt hc' hx
    have hH := webPara.rows_mul_blkH_le
    have hW := webPara.cols_mul_blkW_le
    have hvH : viH = 2160 := rfl
    have hvW : viW = 3840 := rfl
    have hj' : 2 * ((s % webPara.cols * webPara.blkW + x) / 2) + b < viW := by omega
    have hi' : (s / webPara.cols * webPara.blkH + y) / 2 < viH / 2 := by omega
    have hframes : ∀ src dst : Vector UInt8 (viH / 2 * viW),
        pasteAll (pixel viW src) (pixel viW dst) webPara.chromaPatches
          ((a * webPara.blkH + y) / 2) (2 * ((c * webPara.blkW + x) / 2) + b) =
        pixel viW src ((s / webPara.cols * webPara.blkH + y) / 2)
          (2 * ((s % webPara.cols * webPara.blkW + x) / 2) + b) := by
      intro src dst
      obtain ⟨out, hout, hfollow⟩ := h ⟨Vector.replicate _ 0, src⟩ ⟨Vector.replicate _ 0, dst⟩
      obtain ⟨out', hout', -, huv⟩ :=
        reorganizeYUV_eq_ok hweb ⟨Vector.replicate _ 0, src⟩ ⟨Vector.replicate _ 0, dst⟩
      rw [hout'] at hout
      cases hout
      rw [← huv]
      have hpix := hfollow _ hrow _ hcol s
        (by rw [GridLayout.index_div hy, GridLayout.index_div hx, hs]) b hb
      rwa [GridLayout.index_mod hy, GridLayout.index_mod hx] at hpix
    have hne : (0 : UInt8) ≠ 1 := by decide
    exact origin_eq_some_of_paste hne hj' (GridLayout.index_lt hi' hj') hframes
  · intro h inF outF
    obtain ⟨out, hout, -, huv⟩ := reorganizeYUV_eq_ok hweb inF outF
    refine ⟨out, hout, fun row hrow col hcol s hs b hb => ?_⟩
    have ha : row / webPara.blkH < webPara.rows := Nat.div_lt_of_lt_mul (by rwa [Nat.mul_comm])
    have hc : col / webPara.blkW < webPara.cols := Nat.div_lt_of_lt_mul (by rwa [Nat.mul_comm])
    have horigin := h _ ha _ hc _ _ (cell_eq_some_iff.mpr ⟨s, hs, rfl, rfl⟩)
      (row % webPara.blkH) (Nat.mod_lt _ (by omega)) (col % webPara.blkW)
      (Nat.mod_lt _ (by omega)) b hb
    rw [Nat.div_add_mod', Nat.div_add_mod'] at horigin
    rw [huv, pasteAll_apply, horigin]

/-! ### The condition is enough -/

/-- A multiple of an odd size has the parity of its factor. -/
theorem mul_mod_two {b : ℕ} (hb : b % 2 = 1) (a : ℕ) : a * b % 2 = a % 2 := by
  rw [Nat.mul_mod, hb, Nat.mul_one, Nat.mod_mod]

/-- A multiple of an even size is even. -/
theorem mul_mod_two_of_even {b : ℕ} (hb : b % 2 = 0) (a : ℕ) : a * b % 2 = 0 := by
  rw [Nat.mul_mod, hb, Nat.mul_zero, Nat.zero_mod]

/-- Which positions the patch of a block covers. -/
theorem covers_chromaBlock_iff (hweb : webPara.Valid) {a c a' c' i j : ℕ} :
    (webPara.chromaBlock a c a' c').Covers i j ↔
      (a * webPara.blkH / 2 ≤ i ∧ i < a * webPara.blkH / 2 + (webPara.blkH + 1) / 2) ∧
        j / webPara.blkW = c := by
  have hbw := blkW_pos hweb
  unfold Covers WebPara.chromaBlock
  dsimp only
  rw [div_eq_iff_block (by omega)]

/-- Two patches over a byte, the second in a lower row of blocks, copy it from the same place. -/
theorem chroma_agree_of_lt (hal : webPara.ChromaAligned) {a c a' c' a₂ a₂' c₂' i : ℕ}
    (hlt : a < a₂) (ha₂ : a₂ < webPara.rows) (hc : c < webPara.cols)
    (hcell : webPara.cell a c = some (a', c')) (hcell₂ : webPara.cell a₂ c = some (a₂', c₂'))
    (hi : i < a * webPara.blkH / 2 + (webPara.blkH + 1) / 2) (hi₂ : a₂ * webPara.blkH / 2 ≤ i) :
    a' * webPara.blkH / 2 + (i - a * webPara.blkH / 2) =
      a₂' * webPara.blkH / 2 + (i - a₂ * webPara.blkH / 2) ∧ c' = c₂' := by
  -- only the last row of a block of odd height in an even row is shared, with the next block
  have hnext : (a + 1) * webPara.blkH ≤ a₂ * webPara.blkH := Nat.mul_le_mul_right _ hlt
  rw [Nat.succ_mul] at hnext
  have hodd : webPara.blkH % 2 = 1 := by omega
  have hmod := mul_mod_two hodd a
  have ha : a % 2 = 0 := by omega
  obtain rfl : a₂ = a + 1 := by
    by_contra hne
    have htwo : (a + 2) * webPara.blkH ≤ a₂ * webPara.blkH := Nat.mul_le_mul_right _ (by omega)
    rw [Nat.add_mul] at htwo
    omega
  have hmod' := mul_mod_two hodd a'
  have hpar := hal.row_mod hodd a (by omega) c hc a' c' hcell
  rcases hal.below hodd a ha₂ c hc a' c' hcell ha with hnone | hsome
  · rw [hcell₂] at hnone
    cases hnone
  · rw [hcell₂] at hsome
    cases hsome
    rw [Nat.succ_mul] at hi₂ ⊢
    rw [Nat.succ_mul]
    exact ⟨by omega, rfl⟩

/-- The patches over a byte all copy it from the same place. -/
theorem chroma_agree (hweb : webPara.Valid) (hal : webPara.ChromaAligned) {a c a' c' i j : ℕ}
    (ha : a < webPara.rows) (hc : c < webPara.cols) (hcell : webPara.cell a c = some (a', c'))
    (hcov : (webPara.chromaBlock a c a' c').Covers i j) :
    origin webPara.chromaPatches i j = some ((webPara.chromaBlock a c a' c').place i j) := by
  apply origin_eq_some_of_forall
  · exact ⟨_, (mem_chromaPatches_iff hweb).mpr ⟨a, ha, c, hc, a', c', hcell, rfl⟩, hcov⟩
  · intro p hp hcov₂
    obtain ⟨a₂, ha₂, c₂, hc₂, a₂', c₂', hcell₂, rfl⟩ := (mem_chromaPatches_iff hweb).mp hp
    obtain ⟨⟨hlo, hhi⟩, hcol⟩ := (covers_chromaBlock_iff hweb).mp hcov
    obtain ⟨⟨hlo₂, hhi₂⟩, hcol₂⟩ := (covers_chromaBlock_iff hweb).mp hcov₂
    obtain rfl : c = c₂ := hcol.symm.trans hcol₂
    unfold place WebPara.chromaBlock
    dsimp only
    rcases Nat.lt_trichotomy a a₂ with hlt | rfl | hgt
    · obtain ⟨hrow, rfl⟩ := chroma_agree_of_lt hal hlt ha₂ hc hcell hcell₂ hhi hlo₂
      rw [hrow]
    · rw [hcell] at hcell₂
      cases hcell₂
      rfl
    · obtain ⟨hrow, rfl⟩ := chroma_agree_of_lt hal hgt ha hc hcell₂ hcell hhi₂ hlo
      rw [hrow]

/-- The chroma byte of a sample lies in a block of the same row that is shown from the same row,
at the place the byte of the source has in its block. -/
theorem exists_chromaCol (hal : webPara.ChromaAligned) {a c a' c' x b : ℕ}
    (ha : a < webPara.rows) (hc : c < webPara.cols) (hcell : webPara.cell a c = some (a', c'))
    (hx : x < webPara.blkW) (hb : b < 2) :
    ∃ c₁ < webPara.cols, ∃ c₁' z, z < webPara.blkW ∧ webPara.cell a c₁ = some (a', c₁') ∧
      2 * ((c * webPara.blkW + x) / 2) + b = c₁ * webPara.blkW + z ∧
      2 * ((c' * webPara.blkW + x) / 2) + b = c₁' * webPara.blkW + z := by
  rcases Nat.mod_two_eq_zero_or_one webPara.blkW with heven | hodd
  · -- pairs do not cross the edge of a block
    have h1 := mul_mod_two_of_even heven c
    have h2 := mul_mod_two_of_even heven c'
    exact ⟨c, hc, c', 2 * (x / 2) + b, by omega, hcell, by omega, by omega⟩
  · have hpar := hal.col_mod hodd a ha c hc a' c' hcell
    have h1 := mul_mod_two hodd c
    have h2 := mul_mod_two hodd c'
    by_cases hright : 2 * ((c * webPara.blkW + x) / 2) + b = c * webPara.blkW + webPara.blkW
    · -- the second byte of the last pair
      obtain ⟨hc₁, hcell₁⟩ := hal.right hodd a ha c hc a' c' hcell (by omega)
      refine ⟨c + 1, hc₁, c' + 1, 0, by omega, hcell₁, ?_, ?_⟩
      · rw [Nat.succ_mul c]
        omega
      · rw [Nat.succ_mul c']
        omega
    · by_cases hleft : 2 * ((c * webPara.blkW + x) / 2) + b < c * webPara.blkW
      · -- the first byte of the first pair
        obtain ⟨c₁, rfl⟩ : ∃ c₁, c = c₁ + 1 := ⟨c - 1, by omega⟩
        obtain ⟨c'', rfl, hcell₁⟩ := hal.left hodd a ha c₁ hc a' c' hcell (by omega)
        rw [Nat.succ_mul c₁] at hleft h1 ⊢
        rw [Nat.succ_mul c''] at h2 ⊢
        exact ⟨c₁, by omega, c'', webPara.blkW - 1, by omega, hcell₁, by omega, by omega⟩
      · exact ⟨c, hc, c', 2 * ((c * webPara.blkW + x) / 2) + b - c * webPara.blkW, by omega, hcell,
          by omega, by omega⟩

theorem originFollows_of_aligned (hweb : webPara.Valid) (hal : webPara.ChromaAligned) :
    webPara.OriginFollows := by
  intro a ha c hc a' c' hcell y hy x hx b hb
  obtain ⟨c₁, hc₁, c₁', z, hz, hcell₁, hcol, hcol'⟩ := exists_chromaCol hal ha hc hcell hx hb
  have hdiv : (c₁ * webPara.blkW + z) / webPara.blkW = c₁ := GridLayout.index_div hz
  -- the parities agree when the height is odd
  have hrows : (a * webPara.blkH + y) / 2 < a * webPara.blkH / 2 + (webPara.blkH + 1) / 2 ∧
      a' * webPara.blkH / 2 + ((a * webPara.blkH + y) / 2 - a * webPara.blkH / 2) =
        (a' * webPara.blkH + y) / 2 := by
    rcases Nat.mod_two_eq_zero_or_one webPara.blkH with heven | hodd
    · have h1 := mul_mod_two_of_even heven a
      have h2 := mul_mod_two_of_even heven a'
      omega
    · have hpar := hal.row_mod hodd a ha c hc a' c' hcell
      have h1 := mul_mod_two hodd a
      have h2 := mul_mod_two hodd a'
      omega
  have hcov : (webPara.chromaBlock a c₁ a' c₁').Covers ((a * webPara.blkH + y) / 2)
      (c₁ * webPara.blkW + z) := by
    rw [covers_chromaBlock_iff hweb]
    exact ⟨⟨by omega, hrows.1⟩, hdiv⟩
  rw [hcol, hcol', chroma_agree hweb hal ha hc₁ hcell₁ hcov]
  unfold place WebPara.chromaBlock
  dsimp only
  rw [hrows.2, Nat.add_sub_cancel_left]

/-! ### The condition is necessary -/

/-- Multiples of a size that differ by less than the size are equal. -/
theorem eq_of_mul_lt {b m n : ℕ} (h : m * b < n * b + b) (h' : n * b < m * b + b) : m = n := by
  rw [← Nat.succ_mul] at h h'
  have hle := Nat.lt_of_mul_lt_mul_right h
  have hge := Nat.lt_of_mul_lt_mul_right h'
  omega

/-- In the second chroma row of a row of blocks no other row of blocks is pasted. -/
theorem origin_inner_eq_none (hweb : webPara.Valid) {a c j : ℕ} (hj : j / webPara.blkW = c)
    (hnone : c < webPara.cols → webPara.cell a c = none) :
    origin webPara.chromaPatches ((a * webPara.blkH + 2) / 2) j = none := by
  have hbh := blkH_pos hweb
  rw [origin_eq_none_iff]
  intro p hp hcov
  obtain ⟨a₂, -, c₂, hc₂, a', c', hcell, rfl⟩ := (mem_chromaPatches_iff hweb).mp hp
  obtain ⟨⟨hlo, hhi⟩, hcol⟩ := (covers_chromaBlock_iff hweb).mp hcov
  obtain rfl : c = c₂ := hj.symm.trans hcol
  obtain rfl : a₂ = a := eq_of_mul_lt (b := webPara.blkH) (by omega) (by omega)
  rw [hnone hc₂] at hcell
  cases hcell

/-- Chroma byte `b` of the sample in row `y` and column `x` of a block that is shown in another. -/
structure WebPara.ShownByte (webPara : WebPara) (a c a' c' y x b : ℕ) : Prop where
  row_lt : a < webPara.rows
  col_lt : c < webPara.cols
  cell_eq : webPara.cell a c = some (a', c')
  y_lt : y < webPara.blkH
  x_lt : x < webPara.blkW
  b_lt : b < 2

theorem WebPara.OriginFollows.origin (h : webPara.OriginFollows) {a c a' c' y x b : ℕ}
    (hs : webPara.ShownByte a c a' c' y x b) :
    Patch.origin webPara.chromaPatches ((a * webPara.blkH + y) / 2)
        (2 * ((c * webPara.blkW + x) / 2) + b) =
      some ((a' * webPara.blkH + y) / 2, 2 * ((c' * webPara.blkW + x) / 2) + b) :=
  h a hs.row_lt c hs.col_lt a' c' hs.cell_eq y hs.y_lt x hs.x_lt b hs.b_lt

section Necessary

variable (hweb : webPara.Valid) (h : webPara.OriginFollows)

include h

/-- Two samples with a common chroma byte were copied from samples with a common one. -/
theorem eq_of_shared_byte {a c a' c' y x b a₂ c₂ a₂' c₂' y₂ x₂ b₂ : ℕ}
    (hs : webPara.ShownByte a c a' c' y x b) (hs₂ : webPara.ShownByte a₂ c₂ a₂' c₂' y₂ x₂ b₂)
    (hrow : (a * webPara.blkH + y) / 2 = (a₂ * webPara.blkH + y₂) / 2)
    (hcol : 2 * ((c * webPara.blkW + x) / 2) + b = 2 * ((c₂ * webPara.blkW + x₂) / 2) + b₂) :
    (a' * webPara.blkH + y) / 2 = (a₂' * webPara.blkH + y₂) / 2 ∧
      2 * ((c' * webPara.blkW + x) / 2) + b = 2 * ((c₂' * webPara.blkW + x₂) / 2) + b₂ := by
  have h₁ := h.origin hs
  have h₂ := h.origin hs₂
  rw [hrow, hcol, h₂] at h₁
  exact (Prod.mk.inj (Option.some.inj h₁)).imp Eq.symm Eq.symm

include hweb

theorem row_mod_of_follows (hodd : webPara.blkH % 2 = 1) {a c a' c' : ℕ} (ha : a < webPara.rows)
    (hc : c < webPara.cols) (hcell : webPara.cell a c = some (a', c')) : a' % 2 = a % 2 := by
  have hbh := blkH_pos hweb
  have hbw := blkW_pos hweb
  have hmod := mul_mod_two hodd a
  have hmod' := mul_mod_two hodd a'
  rcases Nat.mod_two_eq_zero_or_one a with heven | hodd'
  · -- rows 2 and 3 of the block share a chroma row
    obtain ⟨hrow, -⟩ := eq_of_shared_byte h
      (show webPara.ShownByte a c a' c' 2 0 0 from ⟨ha, hc, hcell, by omega, by omega, by omega⟩)
      (show webPara.ShownByte a c a' c' 3 0 0 from ⟨ha, hc, hcell, by omega, by omega, by omega⟩)
      (by omega) rfl
    omega
  · -- rows 1 and 2 do
    obtain ⟨hrow, -⟩ := eq_of_shared_byte h
      (show webPara.ShownByte a c a' c' 1 0 0 from ⟨ha, hc, hcell, by omega, by omega, by omega⟩)
      (show webPara.ShownByte a c a' c' 2 0 0 from ⟨ha, hc, hcell, by omega, by omega, by omega⟩)
      (by omega) rfl
    omega

theorem col_mod_of_follows (hodd : webPara.blkW % 2 = 1) {a c a' c' : ℕ} (ha : a < webPara.rows)
    (hc : c < webPara.cols) (hcell : webPara.cell a c = some (a', c')) : c' % 2 = c % 2 := by
  have hbh := blkH_pos hweb
  have hbw := blkW_pos hweb
  have hmod := mul_mod_two hodd c
  have hmod' := mul_mod_two hodd c'
  rcases Nat.mod_two_eq_zero_or_one c with heven | hodd'
  · obtain ⟨-, hcol⟩ := eq_of_shared_byte h
      (show webPara.ShownByte a c a' c' 0 2 0 from ⟨ha, hc, hcell, by omega, by omega, by omega⟩)
      (show webPara.ShownByte a c a' c' 0 3 0 from ⟨ha, hc, hcell, by omega, by omega, by omega⟩)
      rfl (by omega)
    omega
  · obtain ⟨-, hcol⟩ := eq_of_shared_byte h
      (show webPara.ShownByte a c a' c' 0 1 0 from ⟨ha, hc, hcell, by omega, by omega, by omega⟩)
      (show webPara.ShownByte a c a' c' 0 2 0 from ⟨ha, hc, hcell, by omega, by omega, by omega⟩)
      rfl (by omega)
    omega

/-- Below a block of odd height in an even row lies nothing or the block below its source. -/
theorem below_of_follows (hodd : webPara.blkH % 2 = 1) {a c a' c' : ℕ}
    (ha : a + 1 < webPara.rows) (hc : c < webPara.cols)
    (hcell : webPara.cell a c = some (a', c')) (heven : a % 2 = 0) :
    webPara.cell (a + 1) c = none ∨ webPara.cell (a + 1) c = some (a' + 1, c') := by
  have hbh := blkH_pos hweb
  have hbw := blkW_pos hweb
  cases hcell₂ : webPara.cell (a + 1) c with
  | none => exact Or.inl rfl
  | some o =>
    right
    obtain ⟨a₂', c₂'⟩ := o
    have hpar := row_mod_of_follows hweb h hodd (by omega) hc hcell
    have hpar₂ := row_mod_of_follows hweb h hodd ha hc hcell₂
    have hmod := mul_mod_two hodd a
    have hmod' := mul_mod_two hodd a'
    have hmod₂' := mul_mod_two hodd a₂'
    have hsucc := Nat.add_one_mul a webPara.blkH
    have hsucc' := Nat.add_one_mul a' webPara.blkH
    -- the last row of the block and the first row of the next share a chroma row
    obtain ⟨hrow, hcol⟩ := eq_of_shared_byte h
      (show webPara.ShownByte a c a' c' (webPara.blkH - 1) 2 0 from
        ⟨by omega, hc, hcell, by omega, by omega, by omega⟩)
      (show webPara.ShownByte (a + 1) c a₂' c₂' 0 2 0 from
        ⟨ha, hc, hcell₂, by omega, by omega, by omega⟩)
      (by omega) rfl
    have ha' : a₂' = a' + 1 := eq_of_mul_lt (b := webPara.blkH) (by omega) (by omega)
    have hc' : c₂' = c' := eq_of_mul_lt (b := webPara.blkW) (by omega) (by omega)
    rw [ha', hc']

/-- Right of a block of odd width in an even column lies the block right of its source. -/
theorem right_of_follows (hodd : webPara.blkW % 2 = 1) {a c a' c' : ℕ} (ha : a < webPara.rows)
    (hc : c < webPara.cols) (hcell : webPara.cell a c = some (a', c')) (heven : c % 2 = 0) :
    c + 1 < webPara.cols ∧ webPara.cell a (c + 1) = some (a', c' + 1) := by
  have hbh := blkH_pos hweb
  have hbw := blkW_pos hweb
  have hpar := col_mod_of_follows hweb h hodd ha hc hcell
  have hmod := mul_mod_two hodd c
  have hmod' := mul_mod_two hodd c'
  have hsucc := Nat.add_one_mul c webPara.blkW
  have hsucc' := Nat.add_one_mul c' webPara.blkW
  have hbyte := h.origin (show webPara.ShownByte a c a' c' 2 (webPara.blkW - 1) 1 from
    ⟨ha, hc, hcell, by omega, by omega, by omega⟩)
  have hdiv : (2 * ((c * webPara.blkW + (webPara.blkW - 1)) / 2) + 1) / webPara.blkW = c + 1 := by
    rw [← div_eq_iff_block (by omega)]
    omega
  -- the second byte of the last pair lies in the next block, so that block is shown
  have hshown : ¬ (c + 1 < webPara.cols → webPara.cell a (c + 1) = none) := by
    intro hnone
    rw [origin_inner_eq_none hweb hdiv hnone] at hbyte
    cases hbyte
  obtain ⟨hc₂, hne⟩ := Classical.not_imp.mp hshown
  obtain ⟨⟨a₂', c₂'⟩, hcell₂⟩ := Option.ne_none_iff_exists'.mp hne
  have hpar₂ := col_mod_of_follows hweb h hodd ha hc₂ hcell₂
  have hmod₂' := mul_mod_two hodd c₂'
  obtain ⟨hrow, hcol⟩ := eq_of_shared_byte h
    (show webPara.ShownByte a c a' c' 2 (webPara.blkW - 1) 1 from
      ⟨ha, hc, hcell, by omega, by omega, by omega⟩)
    (show webPara.ShownByte a (c + 1) a₂' c₂' 2 0 1 from
      ⟨ha, hc₂, hcell₂, by omega, by omega, by omega⟩)
    rfl (by omega)
  have ha' : a₂' = a' := eq_of_mul_lt (b := webPara.blkH) (by omega) (by omega)
  have hc' : c₂' = c' + 1 := eq_of_mul_lt (b := webPara.blkW) (by omega) (by omega)
  rw [hcell₂, ha', hc']
  exact ⟨hc₂, rfl⟩

/-- Left of a block of odd width in an odd column lies the block left of its source. -/
theorem left_of_follows (hodd : webPara.blkW % 2 = 1) {a c a' c' : ℕ} (ha : a < webPara.rows)
    (hc : c + 1 < webPara.cols) (hcell : webPara.cell a (c + 1) = some (a', c'))
    (heven : c % 2 = 0) : ∃ c'', c' = c'' + 1 ∧ webPara.cell a c = some (a', c'') := by
  have hbh := blkH_pos hweb
  have hbw := blkW_pos hweb
  have hpar := col_mod_of_follows hweb h hodd ha hc hcell
  obtain ⟨c'', rfl⟩ : ∃ c'', c' = c'' + 1 := ⟨c' - 1, by omega⟩
  have hmod := mul_mod_two hodd c
  have hmod' := mul_mod_two hodd c''
  have hsucc := Nat.add_one_mul c webPara.blkW
  have hsucc' := Nat.add_one_mul c'' webPara.blkW
  have hbyte := h.origin (show webPara.ShownByte a (c + 1) a' (c'' + 1) 2 0 0 from
    ⟨ha, hc, hcell, by omega, by omega, by omega⟩)
  have hdiv : (2 * (((c + 1) * webPara.blkW + 0) / 2) + 0) / webPara.blkW = c := by
    rw [← div_eq_iff_block (by omega)]
    omega
  -- the first byte of the first pair lies in the block before, so that block is shown
  have hshown : webPara.cell a c ≠ none := by
    intro hnone
    rw [origin_inner_eq_none hweb hdiv fun _ => hnone] at hbyte
    cases hbyte
  obtain ⟨⟨a₂', c₂'⟩, hcell₂⟩ := Option.ne_none_iff_exists'.mp hshown
  have hpar₂ := col_mod_of_follows hweb h hodd ha (show c < webPara.cols by omega) hcell₂
  have hmod₂' := mul_mod_two hodd c₂'
  obtain ⟨hrow, hcol⟩ := eq_of_shared_byte h
    (show webPara.ShownByte a (c + 1) a' (c'' + 1) 2 0 0 from
      ⟨ha, hc, hcell, by omega, by omega, by omega⟩)
    (show webPara.ShownByte a c a₂' c₂' 2 (webPara.blkW - 1) 0 from
      ⟨ha, by omega, hcell₂, by omega, by omega, by omega⟩)
    rfl (by omega)
  have ha' : a₂' = a' := eq_of_mul_lt (b := webPara.blkH) (by omega) (by omega)
  have hc' : c₂' = c'' := eq_of_mul_lt (b := webPara.blkW) (by omega) (by omega)
  rw [hcell₂, ha', hc']
  exact ⟨c'', rfl, rfl⟩

theorem aligned_of_originFollows : webPara.ChromaAligned where
  row_mod hodd _ ha _ hc _ _ hcell := row_mod_of_follows hweb h hodd ha hc hcell
  below hodd _ ha _ hc _ _ hcell heven := below_of_follows hweb h hodd ha hc hcell heven
  col_mod hodd _ ha _ hc _ _ hcell := col_mod_of_follows hweb h hodd ha hc hcell
  right hodd _ ha _ hc _ _ hcell heven := right_of_follows hweb h hodd ha hc hcell heven
  left hodd _ ha _ hc _ _ hcell heven := left_of_follows hweb h hodd ha hc hcell heven

end Necessary

/-- Every frame keeps its colours exactly when the layout is aligned. -/
theorem reorganizeYUV_chroma_iff (hweb : webPara.Valid) :
    (∀ inF outF, ∃ out, reorganizeYUV inF outF webPara = .ok (out, 0) ∧
      webPara.ChromaFollowsLuma inF out) ↔ webPara.ChromaAligned := by
  rw [chromaFollowsLuma_iff hweb]
  exact ⟨aligned_of_originFollows hweb, originFollows_of_aligned hweb⟩

theorem source_identityLayout {i : ℕ} (hi : i < maxLayerNums) :
    identityLayout.source i = some i := by
  have hlt : i < 2 ^ 31 := lt_trans hi (by decide)
  have hentry : identityLayout.layerLayoutTab[i]? = some (Int32.ofNat i) := by
    rw [Vector.getElem?_eq_getElem hi, identityLayout, Vector.getElem_ofFn]
  have hne : Int32.ofNat i ≠ -1 := by
    rw [Ne, ← Int32.toInt_inj, Int32.toInt_ofNat_of_lt hlt, show Int32.toInt (-1) = -1 from rfl]
    omega
  unfold WebPara.source
  rw [hentry]
  dsimp only
  rw [if_neg hne, Int32.toInt_ofNat_of_lt hlt, Int.toNat_natCast]

/-- The layout of the fixed mode shows every block in its own place. -/
theorem cell_identityLayout {a c : ℕ} (ha : a < 16) (hc : c < 8) :
    identityLayout.cell a c = some (a, c) := by
  have hcols : identityLayout.cols = 8 := rfl
  rw [cell_eq_some_iff, hcols]
  exact ⟨_, source_identityLayout (GridLayout.index_lt ha hc), GridLayout.index_div hc,
    GridLayout.index_mod hc⟩

/-- The layout of the fixed mode is aligned, although its blocks are 135 rows high. -/
theorem identityLayout_aligned : identityLayout.ChromaAligned := by
  have hcell : ∀ a < 16, ∀ c < 8, identityLayout.cell a c = some (a, c) :=
    fun a ha c hc => cell_identityLayout ha hc
  have hW : ¬ identityLayout.blkW % 2 = 1 := by decide
  refine ⟨?_, ?_, fun h => absurd h hW, fun h => absurd h hW, fun h => absurd h hW⟩
  · intro _ a ha c hc a' c' h
    rw [hcell a ha c hc] at h
    cases h
    rfl
  · intro _ a ha c hc a' c' h _
    have ha' : a + 1 < 16 := ha
    rw [hcell a (by omega) c hc] at h
    cases h
    exact Or.inr (hcell (a + 1) ha c hc)

theorem reorganizeYUV_chroma_identityLayout :
    ∃ out, reorganizeYUV rampFrame blankFrame identityLayout = .ok (out, 0) ∧
      identityLayout.ChromaFollowsLuma rampFrame out :=
  (reorganizeYUV_chroma_iff identityLayout_valid).mpr identityLayout_aligned rampFrame blankFrame

/-- The grid of the fixed mode, with the first block of the second row of blocks shown one row of
blocks higher. -/
def rowShift : WebPara where
  dstHorizontalBlks := 8
  dstVerticalBlks := 16
  layerLayoutTab := Vector.ofFn fun i => if i = 0 then 8 else -1

theorem rowShift_valid : rowShift.Valid := by
  refine ⟨by decide, by decide, by decide, fun i hi _ => ?_⟩
  unfold rowShift
  rw [Vector.getElem_ofFn]
  split_ifs
  · right
    decide
  · left
    rfl

/-- The second pair of chroma rows shows row 68 of the input, where row 3 of the block was copied
from a luma row of chroma row 69. -/
theorem reorganizeYUV_chroma_rowShift :
    rowShift.Valid ∧ ∃ out, reorganizeYUV rampFrame blankFrame rowShift = .ok (out, 0) ∧
      ¬ rowShift.ChromaFollowsLuma rampFrame out := by
  obtain ⟨out, hout, -, huv⟩ := reorganizeYUV_eq_ok rowShift_valid rampFrame blankFrame
  refine ⟨rowShift_valid, out, hout, fun hfollow => ?_⟩
  have hpix := hfollow 3 (by decide) 0 (by decide) 8 (by decide +kernel) 0 (by decide)
  have horigin : origin rowShift.chromaPatches 1 0 = some (68, 0) := by decide +kernel
  have hcopied : pixel viW out.uv 1 0 = some 68 := by
    rw [huv, pasteAll_apply, horigin]
    exact pixel_rampFrame_uv (by decide)
  have hwanted : pixel viW rampFrame.uv 69 0 = some 69 := pixel_rampFrame_uv (by decide)
  have heq : pixel viW out.uv 1 0 = pixel viW rampFrame.uv 69 0 := hpix
  rw [hcopied, hwanted] at heq
  exact absurd heq (by decide)

end Mvr.Vif
