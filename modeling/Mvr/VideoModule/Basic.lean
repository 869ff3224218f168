import Mvr.Rect.Basic
import Mathlib.Algebra.Order.Field.Rat

/-!
# The web player

`ffmpeg.js` shows parts of the picture that the server sends as a grid: `registerCanvasSimple` asks
for one cell by its index, and `__drawCanvasOptimize4img` crops the cells out of the picture.  Its
quotients are exact here, where the script rounds them to the nearest `double`; the address of the
server and the loading of the pictures are left out.
-/

namespace Mvr

/-- An item of `_canvasList`. -/
structure CanvasItem (Canvas : Type) where
  canvas : Canvas
  xPos : ℕ
  yPos : ℕ
  xNumBlocks : ℕ
  yNumBlocks : ℕ
  deriving DecidableEq

/-- `VideoModule`. -/
structure VideoModule (Canvas : Type) where
  frameW : ℚ
  frameH : ℚ
  numW : ℕ
  numH : ℕ
  canvasList : List (CanvasItem Canvas)

namespace VideoModule

variable {Canvas : Type}

/-- The constructor. -/
def new (numRow numCol : ℕ) : VideoModule Canvas where
  frameW := 1920
  frameH := 1080
  numW := numCol
  numH := numRow
  canvasList := []

/-- `registerCanvas`. -/
def registerCanvas (vm : VideoModule Canvas) (canvas : Canvas)
    (xPos yPos xNumBlocks yNumBlocks : ℕ) : VideoModule Canvas :=
  { vm with canvasList := vm.canvasList ++ [⟨canvas, xPos, yPos, xNumBlocks, yNumBlocks⟩] }

/-- `registerCanvasSimple`. -/
def registerCanvasSimple (vm : VideoModule Canvas) (canvas : Canvas) (videoIndex : ℕ) :
    VideoModule Canvas :=
  vm.registerCanvas canvas (videoIndex % vm.numW) (videoIndex / vm.numH) 1 1

/-- `pad`. -/
def pad : ℚ := 2

/-- The source rectangle that `__drawCanvasOptimize4img` gives to `drawImage` for an item. -/
def sourceRect (vm : VideoModule Canvas) (item : CanvasItem Canvas) : Rect ℚ :=
  let xPB := vm.frameW / vm.numW
  let yPB := vm.frameH / vm.numH
  { x := item.xPos * xPB + pad
    y := item.yPos * yPB + pad
    w := item.xNumBlocks * xPB - 2 * pad
    h := item.yNumBlocks * yPB - 2 * pad }

end VideoModule

end Mvr
