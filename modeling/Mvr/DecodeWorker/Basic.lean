import Mvr.BlockHeap.Basic
import Mvr.Lts.Basic

/-!
# The decoder worker of the web player

`decode_worker.js` runs the decoder of `libffmpeg.wasm`: a buffer of the stream is copied into the
memory of the module and decoded, and every frame the decoder has then is copied out, freed and
posted to the page.  A frame is the size of a JPEG in four bytes, and the JPEG.

The decoder keeps its frames in a ring of 16 words, where a new frame drives the oldest out if there
is no room.  It is modelled from the functions 42 to 47 of the module, those behind `_zx_decode` and
`_zx_getFrame`.  What the codecs inside make of the stream is a parameter, and so is the allocator,
which stops the module when there is no memory.

Where a codec answers with an error other than that it needs more data, or has none, the module
calls `_exit`.  That throws an exception which nobody catches: the message is abandoned as it is,
and the worker goes on with the next one.  The stack that the abandoned calls have left behind is
not modelled.
-/

namespace Mvr

open BlockHeap (Ptr Heap Allocator malloc free write deref)

/-- A packet of the JPEG encoder.  Its size is an `int`. -/
abbrev Packet := {data : List UInt8 // data.length < 2 ^ 31}

/-- What the codecs make of a buffer of the stream. -/
structure Decoded where
  /-- The packets of each picture that was encoded to its end. -/
  pictures : List (List Packet)
  /-- If a codec has failed then, the packets it had of the picture that was being encoded. -/
  failed : Option (List Packet)

/-- The parser, the decoder and the JPEG encoder. -/
structure Codec where
  State : Type
  init : State
  decode : State → List UInt8 → State × Decoded

/-- What `_zx_createH264Decoder` makes: the codecs, and the ring between the words at 84 and 88. -/
structure ZxDecoder (codec : Codec) where
  codecs : codec.State
  frames : ℕ → Ptr
  front : ℕ
  back : ℕ

/-- `decode_worker.js`, with the memory of the module. -/
structure DecodeWorker (codec : Codec) where
  /-- `null` before the module is loaded. -/
  cxt : Option (ZxDecoder codec)
  start : Bool
  /-- `waitWasmLoading` is called every 100 ms. -/
  timerWasm : Bool
  /-- `start = true;` is due. -/
  timeout : Bool
  dbUpdateMutex : ℕ
  heap : Heap UInt8

/-- What the worker posts. -/
inductive WorkerMessage where
  /-- Type 1. -/
  | loaded
  /-- Type 2. -/
  | frame (frame : List UInt8)
  deriving DecidableEq

/-- An `int` as it is stored. -/
def le32 (n : ℕ) : List UInt8 :=
  [.ofNat n, .ofNat (n / 2 ^ 8), .ofNat (n / 2 ^ 16), .ofNat (n / 2 ^ 24)]

namespace ZxDecoder

variable {codec : Codec}

/-- `_zx_createH264Decoder`, which clears its 96 bytes. -/
def create (codec : Codec) : ZxDecoder codec where
  codecs := codec.init
  frames _ := 0
  front := 0
  back := 0

/-- Function 44: the frame of the last packet of a picture, null if it has none. -/
def encode (al : Allocator UInt8) (heap : Heap UInt8) (packets : List Packet) :
    Checked (Heap UInt8 × Ptr) :=
  packets.foldlM (fun (s : Heap UInt8 × Ptr) (packet : Packet) =>
    if packet.val.length > 0 then do
      let heap ← (if s.2 ≠ 0 then free s.1 s.2 else pure s.1 : Checked (Heap UInt8))
      let (frame, heap) ← malloc al heap (packet.val.length + 4)
      let heap ← write heap frame 0 (le32 packet.val.length)
      let heap ← write heap frame 4 packet.val
      pure (heap, frame)
    else
      pure s) (heap, 0)

/-- Function 45: a frame comes into the ring, and drives out the oldest if the ring is full. -/
def enqueue (s : ZxDecoder codec) (heap : Heap UInt8) (frame : Ptr) :
    Checked (ZxDecoder codec × Heap UInt8) := do
  let (s, heap) ←
    if (s.back + 1) &&& 15 = s.front then do
      let front := (s.front + 1) &&& 15
      let heap ← free heap (s.frames front)
      pure ({ s with front, frames := Function.update s.frames front 0 }, heap)
    else
      pure (s, heap)
  let back := (s.back + 1) &&& 15
  pure ({ s with back, frames := Function.update s.frames back frame }, heap)

/-- `_zx_getFrame`, function 47: the oldest frame, null if there is none. -/
def zxGetFrame (s : ZxDecoder codec) : Ptr × ZxDecoder codec :=
  if s.back = s.front then
    (0, s)
  else
    let front := (s.front + 1) &&& 15
    (s.frames front, { s with front, frames := Function.update s.frames front 0 })

/-- Function 43, for a picture of the decoder: its frame comes into the ring. -/
def takePicture (al : Allocator UInt8) (s : ZxDecoder codec × Heap UInt8) (packets : List Packet) :
    Checked (ZxDecoder codec × Heap UInt8) := do
  let (heap, frame) ← encode al s.2 packets
  if frame = 0 then pure (s.1, heap) else enqueue s.1 heap frame

/-- `_zx_decode`, functions 42 and 43, and whether it has ended in `_exit`.  Then the frame that was
being filled is lost. -/
def zxDecode (al : Allocator UInt8) (s : ZxDecoder codec) (heap : Heap UInt8) (buffer : Ptr)
    (len : ℕ) : Checked ((ZxDecoder codec × Heap UInt8) × Bool) := do
  let block ← deref heap buffer
  let (codecs, decoded) := codec.decode s.codecs (block.take len)
  let s ← decoded.pictures.foldlM (takePicture al) ({ s with codecs }, heap)
  match decoded.failed with
  | none => pure (s, false)
  | some packets => do
    let (heap, _) ← encode al s.2 packets
    pure ((s.1, heap), true)

end ZxDecoder

namespace DecodeWorker

variable {codec : Codec}

/-- The script has run. -/
def init (codec : Codec) : DecodeWorker codec where
  cxt := none
  start := false
  timerWasm := true
  timeout := false
  dbUpdateMutex := 0
  heap _ := none

/-- `waitWasmLoading`, where `loaded` says whether the module has its functions. -/
def waitWasmLoading (s : DecodeWorker codec) (loaded : Bool) :
    DecodeWorker codec × List WorkerMessage :=
  if loaded then
    ({ s with cxt := some (.create codec), timerWasm := false, timeout := true }, [.loaded])
  else
    (s, [])

/-- `_zx_getMemVal(ptr + i)`. -/
def zxGetMemVal (heap : Heap UInt8) (ptr : Ptr) (i : ℕ) : Checked UInt8 := do
  let block ← deref heap ptr
  match block[i]? with
  | some val => .ok val
  | none => .error (.outOfBounds i)

/-- `val << n`, of 32-bit integers. -/
def shiftLeft (val : UInt8) (n : ℕ) : ℤ := (BitVec.ofNat 32 val.toNat <<< n).toInt

/-- `len`, from the first four bytes of a frame. -/
def frameLen (heap : Heap UInt8) (frame : Ptr) : Checked ℤ := do
  let len : ℤ := (← zxGetMemVal heap frame 0).toNat
  let len := len + shiftLeft (← zxGetMemVal heap frame 1) 8
  let len := len + shiftLeft (← zxGetMemVal heap frame 2) 16
  let len := len + shiftLeft (← zxGetMemVal heap frame 3) 24
  pure len

/-- `copyData2`, which leaves the block if it is asked to. -/
def copyData2 (heap : Heap UInt8) (ptr : Ptr) (len : ℤ) : Checked (List UInt8) := do
  let block ← deref heap ptr
  if 0 ≤ len ∧ len ≤ block.length then pure (block.take len.toNat) else .error .unspecified

/-- The loop over the frames of the decoder. -/
def postFrames (dbUpdateMutex : ℕ) : ℕ → ZxDecoder codec → Heap UInt8 →
    Checked (ZxDecoder codec × Heap UInt8 × List WorkerMessage)
  | 0, _, _ => .error .outOfFuel
  | fuel + 1, cxt, heap => do
    let (frame, cxt) := cxt.zxGetFrame
    if frame = 0 then
      pure (cxt, heap, [])
    else
      let len ← frameLen heap frame
      let frameBuff ← copyData2 heap frame (len + 4)
      let heap ← free heap frame
      let (cxt, heap, posted) ← postFrames dbUpdateMutex fuel cxt heap
      pure (cxt, heap, if dbUpdateMutex < 3 then .frame frameBuff :: posted else posted)

/-- `onmessage`, for a message of type 1. -/
def onmessage (al : Allocator UInt8) (fuel : ℕ) (s : DecodeWorker codec) (h264Buff : List UInt8) :
    Checked (DecodeWorker codec × List WorkerMessage) :=
  if s.start = false then
    pure (s, [])
  else
    match s.cxt with
    | none => .error .badPointer
    | some cxt => do
      let (buffer, heap) ← malloc al s.heap h264Buff.length
      let heap ← write heap buffer 0 h264Buff
      let ((cxt, heap), exited) ← cxt.zxDecode al heap buffer h264Buff.length
      if exited then
        pure ({ s with cxt := some cxt, heap }, [])
      else do
        let heap ← free heap buffer
        let (cxt, heap, posted) ← postFrames s.dbUpdateMutex fuel cxt heap
        pure ({ s with cxt := some cxt, heap }, posted)

/-- What happens to the worker. -/
inductive Label where
  | timer (loaded : Bool)
  | timeout
  /-- A message that comes before `start`. -/
  | early (h264Buff : List UInt8)
  | message (h264Buff : List UInt8) (posted : List WorkerMessage)

/-- The calls of the worker.  One that the allocator stops is none, while one that ends in `_exit`
is a message for which nothing is posted.  A ring of 16 slots is empty after 15 frames. -/
inductive Step (al : Allocator UInt8) : DecodeWorker codec → Label → DecodeWorker codec → Prop
  | timer {s : DecodeWorker codec} {loaded : Bool} (h : s.timerWasm = true) :
      Step al s (.timer loaded) (s.waitWasmLoading loaded).1
  | timeout {s : DecodeWorker codec} (h : s.timeout = true) :
      Step al s .timeout { s with start := true, timeout := false }
  | early {s s' : DecodeWorker codec} {h264Buff : List UInt8} (hstart : s.start = false)
      (h : s.onmessage al 16 h264Buff = .ok (s', [])) : Step al s (.early h264Buff) s'
  | message {s s' : DecodeWorker codec} {h264Buff : List UInt8} {posted : List WorkerMessage}
      (hstart : s.start = true) (h : s.onmessage al 16 h264Buff = .ok (s', posted)) :
      Step al s (.message h264Buff posted) s'

end DecodeWorker

end Mvr
