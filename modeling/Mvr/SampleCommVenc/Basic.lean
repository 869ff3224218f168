import Mvr.VEncHi3531DV100.Basic
import Mvr.Player.RateControl
import Mvr.Ledger.Basic
import Mvr.Lts.Basic

/-!
# The thread of an encoder

`SAMPLE_COMM_VENC_GetVencStreamProc` waits for a frame of its channel, allocates an array for the
packs of the frame and borrows their stream, hands the packs one after the other to
`VEncHi3531DV100::h264_processor`, which pushes them to the next elements, and gives the stream and
the array back.  After each pack it compares the frame rate that the encoder works with to the
attribute of the element, and sets it where the two differ.

Meanwhile the rate controller changes the attribute, and elements come and go.  So the body of the
loop is cut where it looks at the encoders: into `fetch`, for each pack `push`, `readFrameRate` and
`setFrameRate`, and `release`.  `Step` lets the controller and the other users of the encoders run
in between.  The processor is set by `createInstance`, before there is any encoder, so the test
whether it is null is left out, and so are the files of the first and the third step, to which
nothing is written.
-/

namespace Mvr.SampleCommVenc

open Hi3531dv100Lib (VencFrameRate)

/-- An address of the heap. -/
abbrev Ptr := ℕ

/-- `VENC_PACK_S`, with the bytes at `pu8Addr`. -/
structure VencPack where
  pu8Addr : List UInt8
  u32Offset : UInt32
  u32Len : UInt32
  deriving DecidableEq

/-- `VEncHi3531DV100::Buffer`, with the bytes at `buffer`. -/
structure Buffer where
  buffer : List UInt8
  len : UInt32
  deriving DecidableEq

/-- What `h264_processor` makes of its arguments for a pack. -/
def VencPack.data (p : VencPack) : Buffer where
  buffer := p.pu8Addr.drop p.u32Offset.toNat
  len := p.u32Len - p.u32Offset

/-- The calls of the thread. -/
inductive Call where
  | malloc (pstPack : Ptr)
  /-- A successful `HI_MPI_VENC_GetStream`, with the packs it fills in. -/
  | getStream (stStream : ℕ) (packs : List VencPack)
  /-- `venc->pushNext`, of a pack of the stream. -/
  | pushNext (venc : VEncPtr) (stStream : ℕ) (data : Buffer)
  | setFrameRate (stFrameRate : VencFrameRate)
  | releaseStream (stStream : ℕ)
  | free (pstPack : Ptr)
  deriving DecidableEq

/-- Where the thread is. -/
inductive Phase where
  /-- Before the condition of the loop. -/
  | waiting
  /-- Before the pack that is the first of the rest. -/
  | frame (pstPack : Ptr) (stStream : ℕ) (rest : List VencPack)
  /-- Behind `processH264`. -/
  | pushed (pstPack : Ptr) (stStream : ℕ) (rest : List VencPack)
  /-- Before `HI_MPI_VENC_SetFrameRate`. -/
  | setting (pstPack : Ptr) (stStream : ℕ) (rest : List VencPack) (stFrameRate : VencFrameRate)
  /-- Behind the loop. -/
  | left
  deriving DecidableEq

/-- The encoders, the frame rate that the encoder of the channel works with, and the thread with the
calls it has made. -/
structure System where
  encoders : Encoders
  stFrameRate : VencFrameRate
  phase : Phase
  calls : List Call

/-- What the condition of the loop and the calls up to `HI_MPI_VENC_GetStream` answer. -/
structure Fetch where
  bThreadStart : Bool
  select : Int32
  fdIsSet : Bool
  query : Int32
  u32CurPacks : UInt32
  /-- `none` for a null pointer. -/
  malloc : Option Ptr
  getStream : Int32
  stStream : ℕ
  packs : List VencPack

/-- What `HI_MPI_VENC_GetFrameRate` answers; `residue` is what is in the variable when it fails. -/
structure RateOutcome where
  getFrameRate : Int32
  residue : VencFrameRate

namespace System

/-- A call is made. -/
def call (s : System) (c : Call) : System := { s with calls := s.calls ++ [c] }

/-- The loop, up to the packs. -/
def fetch (s : System) (o : Fetch) : System :=
  if ¬ o.bThreadStart then
    { s with phase := .left }
  else if o.select < 0 then
    { s with phase := .left }
  else if o.select = 0 ∨ ¬ o.fdIsSet then
    s
  else if o.query ≠ 0 ∨ o.u32CurPacks = 0 then
    s
  else match o.malloc with
    | none => s
    | some pstPack =>
      let s := s.call (.malloc pstPack)
      if o.getStream ≠ 0 then
        s.call (.free pstPack)
      else
        { s.call (.getStream o.stStream o.packs) with
          phase := .frame pstPack o.stStream o.packs }

/-- `h264_processor`, of a pack of the stream. -/
def h264Processor (s : System) (vencChn : Int32) (stStream : ℕ) (data : Buffer) :
    Checked System := do
  match ← Checked.get s.encoders.arr vencChn.toInt with
  | none => .error .badPointer
  | some venc => do
    let _ ← s.encoders.deref venc
    pure (s.call (.pushNext venc stStream data))

/-- `stFrameRate` after `HI_MPI_VENC_GetFrameRate`; a failure is only reported. -/
def getFrameRate (s : System) (o : RateOutcome) : VencFrameRate :=
  if o.getFrameRate = 0 then s.stFrameRate else o.residue

/-- The comparison of the frame rates, with the rate of the element: where they differ, the one that
is to be set. -/
def readFrameRate (s : System) (vencChn : Int32) (o : RateOutcome) :
    Checked (Int32 × Option VencFrameRate) := do
  let stFrameRate := s.getFrameRate o
  let fr ← s.encoders.getFramerateFromVenc vencChn
  if fr ≠ stFrameRate.s32DstFrmRate then
    pure (fr, some { stFrameRate with s32DstFrmRate := fr })
  else
    pure (fr, none)

/-- `HI_MPI_VENC_SetFrameRate`, with its result, which is not looked at. -/
def setFrameRate (s : System) (stFrameRate : VencFrameRate) (ret : Int32) : System :=
  let s := s.call (.setFrameRate stFrameRate)
  if ret = 0 then { s with stFrameRate := stFrameRate } else s

/-- The end of the loop; the array is freed also where the release fails. -/
def release (s : System) (pstPack : Ptr) (stStream : ℕ) : System :=
  { (s.call (.releaseStream stStream)).call (.free pstPack) with phase := .waiting }

end System

/-- What happens to the system. -/
inductive Event where
  | fetch (o : Fetch)
  | push
  /-- The comparison, with the rate of the element. -/
  | readFrameRate (o : RateOutcome) (fr : Int32)
  | setFrameRate (ret : Int32)
  | release
  /-- `ws_cli_max_pending_changed_handler`, of an element. -/
  | maxPendingChanged (this : VEncPtr) (isVps : Bool) (rtspServer0 : Option LiveRtspServer)
      (eventPara : UInt32)
  | encoder (e : Encoders.Event)

/-- A step of the thread of a channel, of the controller, or of another user of the encoders. -/
inductive Step (vencChn : Int32) : System → Event → System → Prop
  | fetch {s : System} (o : Fetch) (hphase : s.phase = .waiting) :
      Step vencChn s (.fetch o) (s.fetch o)
  | push {s s' : System} {pstPack : Ptr} {stStream : ℕ} {pk : VencPack} {rest : List VencPack}
      (hphase : s.phase = .frame pstPack stStream (pk :: rest))
      (hpush : s.h264Processor vencChn stStream pk.data = .ok s') :
      Step vencChn s .push { s' with phase := .pushed pstPack stStream rest }
  | keepFrameRate {s : System} {pstPack : Ptr} {stStream : ℕ} {rest : List VencPack} {fr : Int32}
      (o : RateOutcome) (hphase : s.phase = .pushed pstPack stStream rest)
      (hread : s.readFrameRate vencChn o = .ok (fr, none)) :
      Step vencChn s (.readFrameRate o fr) { s with phase := .frame pstPack stStream rest }
  | changeFrameRate {s : System} {pstPack : Ptr} {stStream : ℕ} {rest : List VencPack} {fr : Int32}
      {stFrameRate : VencFrameRate} (o : RateOutcome)
      (hphase : s.phase = .pushed pstPack stStream rest)
      (hread : s.readFrameRate vencChn o = .ok (fr, some stFrameRate)) :
      Step vencChn s (.readFrameRate o fr)
        { s with phase := .setting pstPack stStream rest stFrameRate }
  | setFrameRate {s : System} {pstPack : Ptr} {stStream : ℕ} {rest : List VencPack}
      {stFrameRate : VencFrameRate} (ret : Int32)
      (hphase : s.phase = .setting pstPack stStream rest stFrameRate) :
      Step vencChn s (.setFrameRate ret)
        { s.setFrameRate stFrameRate ret with phase := .frame pstPack stStream rest }
  | release {s : System} {pstPack : Ptr} {stStream : ℕ}
      (hphase : s.phase = .frame pstPack stStream []) :
      Step vencChn s .release (s.release pstPack stStream)
  | maxPendingChanged {s : System} {this : VEncPtr} {venc : VEncHi3531DV100} {elem : Element}
      (isVps : Bool) (rtspServer0 : Option LiveRtspServer) (eventPara : UInt32)
      (hvenc : s.encoders.memory this = some venc)
      (hcall : Player.wsCliMaxPendingChangedHandler isVps rtspServer0 venc.toElement eventPara =
        .ok elem) :
      Step vencChn s (.maxPendingChanged this isVps rtspServer0 eventPara)
        { s with
          encoders := ⟨s.encoders.arr,
            Function.update s.encoders.memory this (some { venc with toElement := elem })⟩ }
  | encoder {s : System} {encoders : Encoders} (e : Encoders.Event)
      (hlegal : s.encoders.Legal e) (hafter : s.encoders.after e = .ok encoders) :
      Step vencChn s (.encoder e) { s with encoders := encoders }

/-! ### What the calls say -/

/-- What the thread borrows. -/
inductive Resource where
  | pstPack (p : Ptr)
  | stream (stStream : ℕ)
  deriving DecidableEq

/-- What a call does to the arrays and streams. -/
def Call.events : Call → List (Ledger.Event Resource)
  | malloc pstPack => [.acquire (.pstPack pstPack)]
  | getStream stStream _ => [.acquire (.stream stStream)]
  | pushNext _ stStream _ => [.use (.stream stStream)]
  | setFrameRate _ => []
  | releaseStream stStream => [.release (.stream stStream)]
  | free pstPack => [.release (.pstPack pstPack)]

/-- The packs that a call fetches. -/
def Call.fetched : Call → List VencPack
  | getStream _ packs => packs
  | _ => []

/-- The buffer that a call pushes. -/
def Call.pushed : Call → Option Buffer
  | pushNext _ _ data => some data
  | _ => none

/-- The call sets the frame rate. -/
def Call.isSetFrameRate : Call → Bool
  | setFrameRate _ => true
  | _ => false

/-- The packs of the frame that are still to be pushed. -/
def Phase.rest : Phase → List VencPack
  | frame _ _ rest => rest
  | pushed _ _ rest => rest
  | setting _ _ rest _ => rest
  | _ => []

/-- What the thread holds. -/
def Phase.held : Phase → List Resource
  | frame pstPack stStream _ => [.stream stStream, .pstPack pstPack]
  | pushed pstPack stStream _ => [.stream stStream, .pstPack pstPack]
  | setting pstPack stStream _ _ => [.stream stStream, .pstPack pstPack]
  | _ => []

end Mvr.SampleCommVenc
