import Mvr.Element.Basic

/-!
# `LiveRTSPServer`

The element between the encoder and the RTSP server.  The encoder thread calls `pushData`, which
copies the frame into `mPushBuffList` unless ten frames are waiting; a thread of the element's own
pops one frame at a time and hands it to `mRtspServer`, once `startSelf` has created that.

`Step` interleaves the two threads and `startSelf`.  A critical section under
`mPushBuffListMutex` is one step; between popping a frame and handing it over the push thread holds
it in `inHand`, outside the lock.  `mPushThreadIsRun` stays true.
-/

namespace Mvr

/-- The `Buffer` of a `pushData` call: on a 32-bit target no object reaches `2 ^ 31` bytes. -/
structure Buffer where
  bytes : List UInt8
  length_lt : bytes.length < 2 ^ 31

/-- `h264_buff_t`. -/
structure H264Buff where
  buff : List UInt8
  len : Int32
  deriving DecidableEq

/-- The constructor of `h264_buff_t`: a copy of the caller's bytes. -/
def H264Buff.new (data : Buffer) : H264Buff := ⟨data.bytes, Int32.ofNat data.bytes.length⟩

/-- `RTSPOnDemandServer::Format`. -/
inductive Format where
  | h264
  | h265
  deriving DecidableEq

/-- The `RTSPServer` behind the element. -/
structure RtspServer where
  mFormat : Format
  mServPort : UInt16
  deriving DecidableEq

/-- The element, with the frame its push thread has popped and not deleted yet. -/
structure LiveRtspServer extends Element where
  mRtspServer : Option RtspServer
  mPushBuffList : List H264Buff
  inHand : Option H264Buff

namespace LiveRtspServer

/-- The constructor. -/
def new : LiveRtspServer where
  toElement :=
    ((Element.new "rtsp-server").setAttr "payload" "h264").setAttr "isConnected" false
  mRtspServer := none
  mPushBuffList := []
  inHand := none

/-- `pushData`, and whether it queued the frame. -/
def pushData (s : LiveRtspServer) (data : Buffer) : LiveRtspServer × Bool :=
  if s.mPushBuffList.length < 10 then
    ({ s with
        toElement := s.toElement.setAttr "isConnected" true
        mPushBuffList := s.mPushBuffList ++ [H264Buff.new data] }, true)
  else
    -- ten frames are waiting, which is taken for nobody being connected
    ({ s with toElement := s.toElement.setAttr "isConnected" false }, false)

/-- `startSelf`. -/
def startSelf (s : LiveRtspServer) : Checked LiveRtspServer := do
  let payload := s.toElement.getAttrWord "payload" "h264"
  let port ← s.toElement.getAttr "port" (0 : Int32)
  let format := if payload = "h264" then Format.h264 else Format.h265
  pure { s with mRtspServer := some ⟨format, UInt16.ofInt port.toInt⟩ }

/-- What a step does, as an observer of the queue sees it. -/
inductive Event where
  /-- A call of `pushData`; `accepted` says whether the frame was queued. -/
  | push (data : Buffer) (accepted : Bool)
  /-- The push thread takes a frame off the queue. -/
  | pop (frame : H264Buff)
  /-- The push thread finds the queue empty. -/
  | sleep
  /-- `mRtspServer->pushData(frame->buff, frame->len)`, after which the frame is deleted. -/
  | handOver (buff : List UInt8) (len : Int32)
  /-- The frame is deleted while `mRtspServer` is null. -/
  | discard (frame : H264Buff)
  | startSelf

/-- The next step of `mPushThreadFunc`. -/
def pushThreadStep (s : LiveRtspServer) : LiveRtspServer × Event :=
  match s.inHand with
  | none =>
    match s.mPushBuffList with
    | frame :: rest => ({ s with mPushBuffList := rest, inHand := some frame }, .pop frame)
    | [] => (s, .sleep)
  | some frame =>
    match s.mRtspServer with
    | some _ => ({ s with inHand := none }, .handOver frame.buff frame.len)
    | none => ({ s with inHand := none }, .discard frame)

/-- The steps of the encoder thread, of the push thread and of the thread that starts the
element. -/
inductive Step : LiveRtspServer → Event → LiveRtspServer → Prop
  | push (s : LiveRtspServer) (data : Buffer) :
      Step s (.push data (s.pushData data).2) (s.pushData data).1
  | pushThread (s : LiveRtspServer) : Step s s.pushThreadStep.2 s.pushThreadStep.1
  | startSelf {s s' : LiveRtspServer} (h : s.startSelf = .ok s') : Step s .startSelf s'

end LiveRtspServer

end Mvr
