import Mvr.Checked.Basic
import Mvr.Ledger.Basic
import Mvr.Lts.Basic

/-!
# The capture loop

`VIHi3531DV100::frameThread` fetches the frames that wait in the driver, at most `MAX_FRAME_NUM`,
gives back all but the last one, maps that one, hands it to the new-frame handler, and gives it back
as well.  An iteration of the outer loop is a batch; it is a function of what the driver answers
(`Outcomes`).  The array `stFrame` is reused from batch to batch, an entry that was never written is
`none`.

A frame the driver hands out is known by its number in the order of the successful calls: the driver
may fill in the same addresses again.
-/

namespace Mvr.Vi

/-- `MAX_FRAME_NUM` of `vihi3531dv100.cpp`. -/
abbrev maxFrameNum : ℕ := 8

/-- The fields of `VIDEO_FRAME_INFO_S` the loop reads and writes. -/
structure VFrame where
  u32PhyAddr : Vector UInt32 3
  pVirAddr : Vector UInt64 3
  u32Stride : Vector UInt32 3
  u32Height : UInt32
  deriving DecidableEq, Repr

/-- A frame the driver has handed out, with its number. -/
structure VideoFrame where
  number : ℕ
  stVFrame : VFrame
  deriving DecidableEq, Repr

/-- The calls of the loop that concern a frame, each with the frame's number. -/
inductive Call where
  /-- A successful `HI_MPI_VI_GetFrame`. -/
  | getFrame (frame : ℕ)
  | releaseFrame (frame : Option ℕ)
  | mmap (frame : Option ℕ) (phyAddr size : UInt32)
  | newFrameHandler (frame : Option ℕ)
  | munmap (frame : Option ℕ) (virAddr : UInt64) (size : UInt32)
  deriving DecidableEq, Repr

/-- What the driver answers in one batch: to each `HI_MPI_VI_GetFrame`, `none` for a failure, and to
the `HI_MPI_SYS_Mmap` of each plane. -/
structure Outcomes where
  getFrame : ℕ → Option VFrame
  mmap : ℕ → UInt64

/-- The variables of a batch, the number of frames obtained so far, and the calls of the batch. -/
structure Batch where
  stFrame : Vector (Option VideoFrame) maxFrameNum
  obtained : ℕ
  calls : List Call

namespace Batch

/-- A call is made. -/
def call (s : Batch) (c : Call) : Batch := { s with calls := s.calls ++ [c] }

/-- The inner loop, from `frame_num` on. -/
def drain (o : Outcomes) (s : Batch) (frameNum : ℕ) : Checked (Batch × ℕ) :=
  if frameNum < maxFrameNum then
    match o.getFrame frameNum with
    | some stVFrame => do
      let stFrame ← Checked.set s.stFrame frameNum (some { number := s.obtained, stVFrame })
      let s := { s with stFrame, obtained := s.obtained + 1 : Batch }.call (.getFrame s.obtained)
      drain o s (frameNum + 1)
    | none => pure (s, frameNum)
  else
    pure (s, frameNum)
termination_by maxFrameNum - frameNum

/-- `HI_MPI_VI_ReleaseFrame(viChn, &stFrame[i])`. -/
def release (s : Batch) (i : ℤ) : Checked Batch := do
  let frame ← Checked.get s.stFrame i
  pure (s.call (.releaseFrame (frame.map VideoFrame.number)))

/-- The body of the loop that maps the planes of `stFrame[cur]`. -/
def mapPlane (o : Outcomes) (cur : ℤ) (s : Batch) (i : ℕ) : Checked Batch := do
  let frame ← Checked.get s.stFrame cur
  match frame with
  | none => .error .unspecified
  | some frame =>
    let phyAddr ← Checked.get frame.stVFrame.u32PhyAddr i
    if phyAddr ≠ 0 then
      let stride ← Checked.get frame.stVFrame.u32Stride i
      let pVirAddr ← Checked.set frame.stVFrame.pVirAddr i (o.mmap i)
      let stFrame ← Checked.set s.stFrame cur
        (some { frame with stVFrame := { frame.stVFrame with pVirAddr } })
      pure ({ s with stFrame }.call
        (.mmap (some frame.number) phyAddr (stride * frame.stVFrame.u32Height)))
    else
      pure s

/-- The body of the loop that unmaps them. -/
def unmapPlane (cur : ℤ) (s : Batch) (i : ℕ) : Checked Batch := do
  let frame ← Checked.get s.stFrame cur
  match frame with
  | none => .error .unspecified
  | some frame =>
    let virAddr ← Checked.get frame.stVFrame.pVirAddr i
    if virAddr ≠ 0 then
      let stride ← Checked.get frame.stVFrame.u32Stride i
      pure (s.call (.munmap (some frame.number) virAddr (stride * frame.stVFrame.u32Height)))
    else
      pure s

/-- `if(mNewFrameHandler) mNewFrameHandler(&stFrame[cur])`. -/
def handle (s : Batch) (mNewFrameHandler : Bool) (cur : ℤ) : Checked Batch :=
  if mNewFrameHandler then do
    let frame ← Checked.get s.stFrame cur
    pure (s.call (.newFrameHandler (frame.map VideoFrame.number)))
  else
    pure s

/-- The body of the outer loop; `mNewFrameHandler` tells whether a handler is registered. -/
def body (s : Batch) (mNewFrameHandler : Bool) (o : Outcomes) : Checked Batch := do
  let (s, frameNum) ← s.drain o 0
  if frameNum = 0 then
    pure s
  else
    let cur : ℤ := frameNum - 1
    let s ← (List.range cur.toNat).foldlM (fun (s : Batch) (i : ℕ) => s.release i) s
    let s ← (List.range 3).foldlM (mapPlane o cur) s
    let s ← s.handle mNewFrameHandler cur
    let s ← (List.range 3).foldlM (unmapPlane cur) s
    s.release cur

end Batch

/-- The thread between two batches: the array, the number of frames obtained, and the calls of the
batches so far. -/
structure Thread where
  stFrame : Vector (Option VideoFrame) maxFrameNum
  obtained : ℕ
  batches : List (List Call)

/-- The thread before its loop. -/
def Thread.init : Thread where
  stFrame := Vector.replicate maxFrameNum none
  obtained := 0
  batches := []

/-- An iteration of the outer loop. -/
def Thread.frameThread (mNewFrameHandler : Bool) (t : Thread) (o : Outcomes) : Checked Thread := do
  let s : Batch := { stFrame := t.stFrame, obtained := t.obtained, calls := [] }
  let s ← s.body mNewFrameHandler o
  pure { stFrame := s.stFrame, obtained := s.obtained, batches := t.batches ++ [s.calls] }

/-- What a call does to the frames. -/
def Call.events : Call → List (Ledger.Event (Option ℕ))
  | getFrame frame => [.acquire (some frame)]
  | releaseFrame frame => [.release frame]
  | mmap frame _ _ => [.use frame]
  | newFrameHandler frame => [.use frame]
  | munmap frame _ _ => [.use frame]

/-- The frame a call obtains. -/
def Call.obtained : Call → Option (Option ℕ)
  | getFrame frame => some (some frame)
  | _ => none

/-- The frame a call hands to the handler. -/
def Call.handled : Call → Option (Option ℕ)
  | newFrameHandler frame => some frame
  | _ => none

end Mvr.Vi
