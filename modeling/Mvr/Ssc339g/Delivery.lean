import Mvr.Ssc339g.Basic
import Mvr.Vif.ReorganizeYuv

/-!
# What the channels are for

A sensor's pictures leave its channel through a port that was set up, enter the channel of the VPE
that this port is bound to, and from there go straight on to an encoder, or through the hands of a
thread and the DIVP.  `Fed` says which encoder gets the pictures of which sensor, and in what size.
The vendor's modules are taken to hand on what they get, in the size that was set for them, from the
ports and channels whose calls were made and succeeded, and from no others.
-/

namespace Mvr.Ssc339g

namespace Board

variable (sdk : Sdk) (b : Board)

/-- The call was made and succeeded. -/
def Done (c : Call) : Prop := c ∈ b.made ∧ sdk.ret c = 0

/-- The calls were made and succeeded. -/
def Has (cs : List Call) : Prop := ∀ c ∈ cs, b.Done sdk c

end Board

/-- The calls that set up the port of a sensor's channel for the sensor on a pad. -/
def vifCalls (pad dev chn port : UInt32) : List Call :=
  [.snrSetPlaneMode pad, .snrSetRes pad, .snrEnable pad, .snrGetPadInfo pad, .snrGetPlaneInfo pad,
    .vifSetDevAttr dev pad, .vifEnableDev dev, .vifSetChnPortAttr chn port pad,
    .vifEnableChnPort chn port]

/-- The calls that set up a port of a VPE channel for the sensor on a pad. -/
def vpeCalls (pad chn port : UInt32) (size : Size) : List Call :=
  [.vpeSetChannelParam chn, .vpeCreateChannel chn (some pad), .vpeStartChannel chn,
    .vpeGetPortMode chn port, .vpeSetPortMode chn port (some size),
    .sysSetChnOutputPortDepth ⟨.vpe, 0, chn, port⟩ 0 5, .vpeEnablePort chn port]

/-- The calls that set up a DIVP channel. -/
def divpCalls (chn : UInt32) (size : Size) : List Call :=
  [.divpCreateChn chn, .divpSetOutputPortAttr chn (some size), .divpStartChn chn]

/-- The calls that set up an encoder. -/
def vencCalls (chn : UInt32) (type : ModType) (size : Size) : List Call :=
  [.vencCreateChn chn (some type) (some size), .vencGetChnDevid chn, .vencStartRecvPic chn]

/-- The input port of an encoder, on the device that the SDK put it on. -/
def vencPort (sdk : Sdk) (chn : UInt32) : ChnPort := ⟨.venc, sdk.chnDevid chn, chn, 0⟩

/-- The size of the pictures that `reorganizeYUV` takes and makes. -/
def viSize : Size := (Vif.viW, Vif.viH)

/-- Every frame is composed with the layout that the attributes hold. -/
def Composes (vifElement : Element) : Prop :=
  ∀ inFrameData outFrameData, ∃ web out, Vif.webPara vifElement = .ok web ∧
    Vif.reorganizeYUV inFrameData outFrameData web = .ok out

/-- Pictures of a size leave a port that come from the sensor on a pad. -/
inductive Board.Delivers (sdk : Sdk) (b : Board) (pad : UInt32) : ChnPort → Size → Prop where
  /-- The VPE takes its pictures from the channel that is bound to it. -/
  | vpe {dev chn port vpeChn vpePort : UInt32} {size : Size}
      (hvif : b.Has sdk (vifCalls pad dev chn port))
      (hbind : b.Done sdk (.sysBindChnPort2 ⟨.vif, dev, chn, port⟩ ⟨.vpe, 0, vpeChn, 0⟩))
      (hvpe : b.Has sdk (vpeCalls pad vpeChn vpePort size)) :
      b.Delivers sdk pad ⟨.vpe, 0, vpeChn, vpePort⟩ size
  /-- A thread composes pictures of the one size it can, and puts them into the DIVP. -/
  | divp {src : ChnPort} {chn : UInt32} {vifElement : Element} {size : Size}
      (hsrc : b.Delivers sdk pad src viSize)
      (hcopy : ⟨src, ⟨.divp, 0, chn, 0⟩, some viSize, vifElement⟩ ∈ b.copied)
      (hcomposes : Composes vifElement) (hdivp : b.Has sdk (divpCalls chn size)) :
      b.Delivers sdk pad ⟨.divp, 0, chn, 0⟩ size

/-- An encoder that was created for pictures of the one size is fed pictures of the other, which
come from the sensor on a pad. -/
structure Board.Fed (sdk : Sdk) (b : Board) (pad chn : UInt32) (created fed : Size) : Prop where
  encodes : ∃ type, b.Has sdk (vencCalls chn type created)
  bound : ∃ src, b.Delivers sdk pad src fed ∧ b.Done sdk (.sysBindChnPort2 src (vencPort sdk chn))

end Mvr.Ssc339g
