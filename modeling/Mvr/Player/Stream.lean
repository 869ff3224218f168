import Mvr.LiveRtspServer.Basic
import Mvr.RtspPipe.Basic
import Mvr.Venc.Basic

/-!
# The stream of an encoder

`NovaEncoderInit` puts three threads behind a channel: `getH264data` hands each packet of the
encoder to `RTSPCallBack_0`, which queues it in the element `rtsp_server0`; the element's push
thread takes the packets off the queue and gives them to the `RTSPOnDemandServer` that `startSelf`
has created; and that server's own thread creates `mSubSersion`, the end of the pipe the server
reads.  `Stream.Step` interleaves the three with the call of `startSelf`.

An iteration of the encoder loop touches what the other threads see only through the callback, and
is one step.  The second channel has the same threads and objects of its own.
-/

namespace Mvr.Player

open LiveRtspServer (Event)

/-- What the threads of a channel share. -/
structure Stream where
  venc : Venc.Loop
  rtspServer0 : LiveRtspServer
  /-- The bytes that were written into the pipe of `mSubSersion`, which is null at first. -/
  mSubSersion : Option (List UInt8)

namespace Stream

/-- The channel before its encoder thread runs. -/
def init : Stream where
  venc := Venc.Loop.init
  rtspServer0 := LiveRtspServer.new
  mSubSersion := none

/-- `RTSPCallBack_0`, and whether the element queued the frame. -/
def rtspCallBack0 (s : Stream) (framedata : Buffer) : Stream × Bool :=
  let res := s.rtspServer0.pushData framedata
  ({ s with rtspServer0 := res.1 }, res.2)

/-- What a step of the push thread does to the pipe: a frame it hands over goes to
`RTSPOnDemandServer::pushData`. -/
def deliver (mSubSersion : Option (List UInt8)) (e : Event) (write : RtspPipe.Writer) :
    Checked (Option (List UInt8)) :=
  match e with
  | .handOver buff _ => Prod.snd <$>
      RtspPipe.RTSPOnDemandServer.pushData buff.length mSubSersion ⟨buff, write⟩
  | _ => pure mSubSersion

end Stream

/-- The packets an iteration of the encoder loop hands to the callback. -/
def handedBy (venc venc' : Venc.Loop) : List (List UInt8) :=
  (venc'.calls.drop venc.calls.length).filterMap Venc.Call.handed

namespace Stream

/-- The steps of a channel. -/
inductive Label where
  /-- An iteration of the encoder loop that does not call the callback. -/
  | idle (o : Venc.Outcomes)
  /-- An iteration that calls the callback; `accepted` says whether the frame was queued. -/
  | packet (o : Venc.Outcomes) (framedata : Buffer) (accepted : Bool)
  /-- A step of the push thread, what `write` answers to it, and whether there is a pipe. -/
  | pushThread (e : Event) (write : RtspPipe.Writer) (piped : Bool)
  | startSelf
  /-- `establishAndRunServer` creates the subsession. -/
  | establish

/-- The steps of the encoder thread, of the push thread, of the thread that starts the element and
of the RTSP server's thread. -/
inductive Step : Stream → Label → Stream → Prop
  | idle {s : Stream} {o : Venc.Outcomes} {venc : Venc.Loop} (h : s.venc.Step o venc)
      (hquiet : handedBy s.venc venc = []) : Step s (.idle o) { s with venc }
  | packet {s : Stream} {o : Venc.Outcomes} {venc : Venc.Loop} {framedata : Buffer}
      (h : s.venc.Step o venc) (hdata : handedBy s.venc venc = [framedata.bytes]) :
      Step s (.packet o framedata (s.rtspCallBack0 framedata).2)
        { (s.rtspCallBack0 framedata).1 with venc }
  | pushThread {s : Stream} {write : RtspPipe.Writer} {mSubSersion : Option (List UInt8)}
      (h : deliver s.mSubSersion s.rtspServer0.pushThreadStep.2 write = .ok mSubSersion) :
      Step s (.pushThread s.rtspServer0.pushThreadStep.2 write s.mSubSersion.isSome)
        { s with rtspServer0 := s.rtspServer0.pushThreadStep.1, mSubSersion }
  /-- `NovaEncoderInit` starts the element once. -/
  | startSelf {s : Stream} {rtspServer0 : LiveRtspServer} (hnew : s.rtspServer0.mRtspServer = none)
      (h : s.rtspServer0.startSelf = .ok rtspServer0) :
      Step s .startSelf { s with rtspServer0 }
  /-- The thread of the server exists once the element was started, and creates one subsession. -/
  | establish {s : Stream} (hserver : s.rtspServer0.mRtspServer ≠ none)
      (hnew : s.mSubSersion = none) : Step s .establish { s with mSubSersion := some [] }

end Stream

end Mvr.Player
