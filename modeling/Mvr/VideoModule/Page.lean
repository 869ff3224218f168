import Mvr.DecodeWorker.Basic
import Mvr.VideoModule.Basic

/-!
# Pictures on the page

The page of `ffmpeg.js` passes what comes from the websocket to its decoder worker, and the JPEGs
that come back to one `img`, from which the canvases are drawn.  Each blob on either way is read by
a `FileReader` of its own, so that the reads may end in any order, or fail; the messages between the
page and the worker keep their order.  Of a message that ends in an exception of the worker the page
hears nothing.

`img.Idle` is false while a picture is being loaded: a JPEG whose url is ready then is skipped.
There is a handler for the end of a load, but none for its failure.
-/

namespace Mvr

open BlockHeap (Allocator)

/-- `_img`. -/
structure Img where
  idle : Bool
  valid : Bool
  /-- The JPEG in `src` as long as it is being loaded. -/
  loading : Option (List UInt8)

/-- `VideoModule` with what it waits for. -/
structure Page (Canvas : Type) (codec : Codec) where
  vm : VideoModule Canvas
  img : Img
  /-- The blobs of the websocket that are being read. -/
  blobs : List (List UInt8)
  toWorker : List (List UInt8)
  worker : DecodeWorker codec
  toPage : List WorkerMessage
  /-- The JPEGs that are being read into urls. -/
  jpegs : List (List UInt8)

namespace VideoModule

variable {Canvas : Type}

/-- `__drawCanvasOptimize4img`, and the crops that it draws.  `drawImage` throws for some
canvases. -/
def drawCanvasOptimize4img (vm : VideoModule Canvas) (img : Img) (throws : Canvas → Bool) :
    Img × List (Canvas × Rect ℚ) :=
  if img.valid ≠ true then
    (img, [])
  else
    vm.canvasList.foldl (fun (s : Img × List (Canvas × Rect ℚ)) (item : CanvasItem Canvas) =>
      if throws item.canvas then ({ s.1 with valid := false }, s.2)
      else (s.1, s.2 ++ [(item.canvas, vm.sourceRect item)])) (img, [])

/-- `clearCanvas`. -/
def clearCanvas (vm : VideoModule Canvas) : VideoModule Canvas := { vm with canvasList := [] }

end VideoModule

namespace Img

/-- A new `img`. -/
def new : Img := ⟨true, false, none⟩

/-- The end of a read: a url is assigned to an idle `img`. -/
def readerOnload (img : Img) (jpeg : List UInt8) : Img :=
  if img.idle = true then { img with idle := false, loading := some jpeg } else img

/-- `onload` of an image of some width, with the crops that it draws. -/
def onload {Canvas : Type} (vm : VideoModule Canvas) (width : ℕ) (throws : Canvas → Bool) :
    Img × List (Canvas × Rect ℚ) :=
  let img : Img := { idle := true, valid := true, loading := none }
  if width = 1920 then vm.drawCanvasOptimize4img img throws else (img, [])

end Img

namespace Page

variable {Canvas : Type} {codec : Codec}

/-- The constructor has run. -/
def init (Canvas : Type) (codec : Codec) (numRow numCol : ℕ) : Page Canvas codec where
  vm := .new numRow numCol
  img := .new
  blobs := []
  toWorker := []
  worker := .init codec
  toPage := []
  jpegs := []

/-- `decodeWorker.onmessage`. -/
def onmessage (s : Page Canvas codec) : WorkerMessage → Page Canvas codec
  | .loaded => s
  | .frame frame => { s with jpegs := s.jpegs ++ [frame.drop 4] }

/-- What happens on the page and in its worker. -/
inductive Label (Canvas : Type) where
  /-- A message of the websocket. -/
  | message (blob : List UInt8)
  /-- The `i`-th of the reads of blobs ends. -/
  | blobRead (i : ℕ) (blob : List UInt8)
  | blobFailed (i : ℕ)
  | timer (loaded : Bool)
  | timeout
  | early (h264Buff : List UInt8)
  | decode (h264Buff : List UInt8) (posted : List WorkerMessage)
  | workerMessage (data : WorkerMessage)
  /-- The `i`-th of the reads of JPEGs ends, and the JPEG is assigned or not. -/
  | urlRead (i : ℕ) (jpeg : List UInt8) (assigned : Bool)
  | urlFailed (i : ℕ)
  | load (jpeg : List UInt8) (draws : List (Canvas × Rect ℚ))
  | loadFailed (jpeg : List UInt8)
  | canvases (vm : VideoModule Canvas)

/-- The callbacks of the page and of its worker, and the calls of the page's owner. -/
inductive Step (al : Allocator UInt8) :
    Page Canvas codec → Label Canvas → Page Canvas codec → Prop
  | message {s : Page Canvas codec} {blob : List UInt8} :
      Step al s (.message blob) { s with blobs := s.blobs ++ [blob] }
  | blobRead {s : Page Canvas codec} {i : ℕ} {blob : List UInt8} (h : s.blobs[i]? = some blob) :
      Step al s (.blobRead i blob)
        { s with blobs := s.blobs.eraseIdx i, toWorker := s.toWorker ++ [blob] }
  | blobFailed {s : Page Canvas codec} {i : ℕ} (h : i < s.blobs.length) :
      Step al s (.blobFailed i) { s with blobs := s.blobs.eraseIdx i }
  | timer {s : Page Canvas codec} {loaded : Bool} (h : s.worker.timerWasm = true) :
      Step al s (.timer loaded)
        { s with
          worker := (s.worker.waitWasmLoading loaded).1
          toPage := s.toPage ++ (s.worker.waitWasmLoading loaded).2 }
  | timeout {s : Page Canvas codec} (h : s.worker.timeout = true) :
      Step al s .timeout { s with worker := { s.worker with start := true, timeout := false } }
  | early {s : Page Canvas codec} {h264Buff : List UInt8} {toWorker : List (List UInt8)}
      {worker : DecodeWorker codec} (hbuff : s.toWorker = h264Buff :: toWorker)
      (h : DecodeWorker.Step al s.worker (.early h264Buff) worker) :
      Step al s (.early h264Buff) { s with toWorker, worker }
  | decode {s : Page Canvas codec} {h264Buff : List UInt8} {toWorker : List (List UInt8)}
      {worker : DecodeWorker codec} {posted : List WorkerMessage}
      (hbuff : s.toWorker = h264Buff :: toWorker)
      (h : DecodeWorker.Step al s.worker (.message h264Buff posted) worker) :
      Step al s (.decode h264Buff posted)
        { s with toWorker, worker, toPage := s.toPage ++ posted }
  | workerMessage {s : Page Canvas codec} {data : WorkerMessage} {toPage : List WorkerMessage}
      (h : s.toPage = data :: toPage) :
      Step al s (.workerMessage data) (onmessage { s with toPage } data)
  | urlRead {s : Page Canvas codec} {i : ℕ} {jpeg : List UInt8} (h : s.jpegs[i]? = some jpeg) :
      Step al s (.urlRead i jpeg s.img.idle)
        { s with jpegs := s.jpegs.eraseIdx i, img := s.img.readerOnload jpeg }
  | urlFailed {s : Page Canvas codec} {i : ℕ} (h : i < s.jpegs.length) :
      Step al s (.urlFailed i) { s with jpegs := s.jpegs.eraseIdx i }
  | load {s : Page Canvas codec} {jpeg : List UInt8} {width : ℕ} {throws : Canvas → Bool}
      (h : s.img.loading = some jpeg) :
      Step al s (.load jpeg (Img.onload s.vm width throws).2)
        { s with img := (Img.onload s.vm width throws).1 }
  /-- Nothing is called. -/
  | loadFailed {s : Page Canvas codec} {jpeg : List UInt8} (h : s.img.loading = some jpeg) :
      Step al s (.loadFailed jpeg) { s with img.loading := none }
  /-- `registerCanvas`, `registerCanvasSimple` or `clearCanvas`. -/
  | canvases {s : Page Canvas codec} {vm : VideoModule Canvas} (h : vm = s.vm.clearCanvas ∨
      ∃ canvas xPos yPos xNum yNum, vm = s.vm.registerCanvas canvas xPos yPos xNum yNum) :
      Step al s (.canvases vm) { s with vm }

end Page

end Mvr
