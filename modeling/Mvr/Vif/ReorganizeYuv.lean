import Mvr.Vif.WebPara
import Mvr.Raster.Basic

/-!
# The frame composer

`vif::reorganizeYUV` cuts the output frame into `dst_horizontal_blks * dst_vertical_blks` blocks
and copies into block `i` the block of the input frame that `layer_layout_tab[i]` names.  The frames
are semi-planar: a luma plane, and a plane of half as many rows with the interleaved chroma pairs.
A pointer into a plane is its offset there; the offsets are `int` computations of the source.
-/

namespace Mvr.Vif

/-- `vi_w`, the bytes of a row of either plane. -/
abbrev viW : ℕ := 3840

/-- `vi_h`, the rows of the luma plane. -/
abbrev viH : ℕ := 2160

/-- The planes `pVirAddr[0]` and `pVirAddr[1]` of `MI_SYS_FrameData_t`. -/
structure FrameData where
  y : Vector UInt8 (viH * viW)
  uv : Vector UInt8 (viH / 2 * viW)

/-- The pointers that walk down the rows of a block. -/
structure Cursor where
  srcY : ℤ
  dstY : ℤ
  srcUv : ℤ
  dstUv : ℤ

/-- `n / dst_horizontal_blks * blk_h * vi_w + n % dst_horizontal_blks * blk_w`. -/
def yOffset (webPara : WebPara) (blkW blkH n : Int32) : Checked ℤ := do
  let row ← Checked.div n webPara.dstHorizontalBlks
  let col ← Checked.mod n webPara.dstHorizontalBlks
  pure ((row * blkH * Int32.ofNat viW).toInt + (col * blkW).toInt)

/-- `n / dst_horizontal_blks * blk_h / 2 * vi_w + n % dst_horizontal_blks * blk_w`. -/
def uvOffset (webPara : WebPara) (blkW blkH n : Int32) : Checked ℤ := do
  let row ← Checked.div n webPara.dstHorizontalBlks
  let col ← Checked.mod n webPara.dstHorizontalBlks
  pure ((row * blkH / 2 * Int32.ofNat viW).toInt + (col * blkW).toInt)

/-- The body of the loop over the rows of a block. -/
def copyRow (inFrameData : FrameData) (blkW : Int32) (s : Cursor × FrameData) (y : ℕ) :
    Checked (Cursor × FrameData) := do
  let (c, outFrameData) := s
  -- the length of a block row is not negative when the loop is entered
  let dstY ← Checked.memcpy outFrameData.y c.dstY inFrameData.y c.srcY blkW.toInt.toNat
  let dstUv ← Checked.memcpy outFrameData.uv c.dstUv inFrameData.uv c.srcUv blkW.toInt.toNat
  let c := { c with srcY := c.srcY + viW, dstY := c.dstY + viW }
  let c := if y % 2 = 1 then { c with srcUv := c.srcUv + viW, dstUv := c.dstUv + viW } else c
  pure (c, { y := dstY, uv := dstUv })

/-- The body of the loop over the blocks. -/
def copyBlock (inFrameData : FrameData) (webPara : WebPara) (blkW blkH : Int32)
    (outFrameData : FrameData) (i : ℕ) : Checked FrameData := do
  let layerId ← Checked.get webPara.layerLayoutTab i
  if layerId ≠ -1 then
    let srcY ← yOffset webPara blkW blkH layerId
    let dstY ← yOffset webPara blkW blkH (Int32.ofNat i)
    let srcUv ← uvOffset webPara blkW blkH layerId
    let dstUv ← uvOffset webPara blkW blkH (Int32.ofNat i)
    let (_, out) ← (List.range blkH.toInt.toNat).foldlM (copyRow inFrameData blkW)
      ({ srcY, dstY, srcUv, dstUv }, outFrameData)
    pure out
  else
    pure outFrameData

/-- `reorganizeYUV`: the output frame it leaves, and its result. -/
def reorganizeYUV (inFrameData outFrameData : FrameData) (webPara : WebPara) :
    Checked (FrameData × Int32) := do
  let blkW ← Checked.div (Int32.ofNat viW) webPara.dstHorizontalBlks
  let blkH ← Checked.div (Int32.ofNat viH) webPara.dstVerticalBlks
  let blks := webPara.dstHorizontalBlks * webPara.dstVerticalBlks
  let out ← (List.range blks.toInt.toNat).foldlM (copyBlock inFrameData webPara blkW blkH)
    outFrameData
  pure (out, 0)

/-! ### The block map -/

namespace WebPara

/-- The number of blocks in a row. -/
def cols (webPara : WebPara) : ℕ := webPara.dstHorizontalBlks.toInt.toNat

/-- The number of blocks in a column. -/
def rows (webPara : WebPara) : ℕ := webPara.dstVerticalBlks.toInt.toNat

/-- The width of a block. -/
def blkW (webPara : WebPara) : ℕ := viW / webPara.cols

/-- The height of a block. -/
def blkH (webPara : WebPara) : ℕ := viH / webPara.rows

/-- The block of the input that the table shows in block `i`, `none` for `-1`. -/
def source (webPara : WebPara) (i : ℕ) : Option ℕ :=
  match webPara.layerLayoutTab[i]? with
  | some layerId => if layerId = -1 then none else some layerId.toInt.toNat
  | none => none

/-- A grid of at least one block and at most `MAX_LAYER_NUMS`, whose cells name blocks of it or
are empty. -/
structure Valid (webPara : WebPara) : Prop where
  one_le_cols : 1 ≤ webPara.dstHorizontalBlks.toInt
  one_le_rows : 1 ≤ webPara.dstVerticalBlks.toInt
  cells_le : webPara.dstHorizontalBlks.toInt * webPara.dstVerticalBlks.toInt ≤ maxLayerNums
  entry : ∀ i (hi : i < maxLayerNums),
    i < webPara.dstHorizontalBlks.toInt * webPara.dstVerticalBlks.toInt →
      webPara.layerLayoutTab[i].toInt = -1 ∨ 0 ≤ webPara.layerLayoutTab[i].toInt ∧
        webPara.layerLayoutTab[i].toInt <
          webPara.dstHorizontalBlks.toInt * webPara.dstVerticalBlks.toInt

end WebPara

end Mvr.Vif
