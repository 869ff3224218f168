import Mvr.Element.Basic

/-!
# Starting the output and the encoder

`hi3531dv100_vo_start` and `hi3531dv100_venc_start` make their calls one after the other and leave
by a label where one fails.  The calls are recorded in order; what they return is a parameter, and
so are the width, the height and the frame rate that `SAMPLE_COMM_VO_GetWH` writes.  An argument
that is the same constant in every call is left out.
-/

namespace Mvr.Hi3531dv100Lib

/-- `HI_SUCCESS`. -/
def hiSuccess : Int32 := 0

/-- `HI_FAILURE`. -/
def hiFailure : Int32 := -1

/-- `VO_VIDEO_LAYER_ATTR_S`. -/
structure VoVideoLayerAttr where
  stImageSize : UInt32 × UInt32
  u32DispFrmRt : UInt32
  /-- `s32X`, `s32Y`, `u32Width` and `u32Height`. -/
  stDispRect : Int32 × Int32 × UInt32 × UInt32
  deriving DecidableEq

/-- `VO_WBC_ATTR_S`. -/
structure VoWbcAttr where
  stTargetSize : UInt32 × UInt32
  u32FrameRate : UInt32
  deriving DecidableEq

/-- `PAYLOAD_TYPE_E`, as far as it is used. -/
inductive PayloadType where
  | h264
  | h265
  deriving DecidableEq

/-- `PIC_SIZE_E`, as far as it is used. -/
inductive PicSize where
  | hd720
  | hd1080
  | wqxga
  | uhd4k
  | uhd1920x2160
  deriving DecidableEq

/-- `VENC_FRAME_RATE_S`. -/
structure VencFrameRate where
  s32SrcFrmRate : Int32
  s32DstFrmRate : Int32
  deriving DecidableEq

/-- The calls. -/
inductive Call where
  | voStartDev (voDev : Int32)
  | voGetWH
  | voStartLayer (voLayer : Int32) (stLayerAttr : VoVideoLayerAttr)
  | voStartChn (voLayer : Int32)
  | wbcBindVo (voWbc u32SourceId : Int32)
  | voStartWbc (voWbc : Int32) (stWbcAttr : VoWbcAttr)
  | voHdmiStart
  | voStopChn (voLayer : Int32)
  | voStopLayer (voLayer : Int32)
  | voStopDev (voDev : Int32)
  | vencStart (vencChn : Int32) (enPayLoad : PayloadType) (enSize : PicSize)
  | vencGetFrameRate (vencChn : Int32)
  | vencSetFrameRate (vencChn : Int32) (stFrameRate : VencFrameRate)
  | vencStartGetStream (vencChn : Int32)
  | vencStop (vencChn : Int32)
  deriving DecidableEq

/-- What the calls answer. -/
structure Platform where
  ret : Call → Int32
  /-- The width, the height and the frame rate of the output. -/
  wh : UInt32 × UInt32 × UInt32

/-! ### `hi3531dv100_vo_start` -/

/-- `END_8_1080P_3`. -/
def end81080P3 (s32Ret : Int32) (calls : List Call) : Int32 × List Call := (s32Ret, calls)

/-- `END_8_1080P_4`. -/
def end81080P4 (voDev s32Ret : Int32) (calls : List Call) : Int32 × List Call :=
  end81080P3 s32Ret (calls ++ [.voStopDev voDev])

/-- `END_8_1080P_5`. -/
def end81080P5 (voDev voLayer s32Ret : Int32) (calls : List Call) : Int32 × List Call :=
  end81080P4 voDev s32Ret (calls ++ [.voStopLayer voLayer])

/-- `END_8_1080P_6`. -/
def end81080P6 (voDev voLayer s32Ret : Int32) (calls : List Call) : Int32 × List Call :=
  end81080P5 voDev voLayer s32Ret (calls ++ [.voStopChn voLayer])

/-- The attributes of the layer, which fills the screen. -/
def stLayerAttr (p : Platform) : VoVideoLayerAttr where
  stImageSize := (p.wh.1, p.wh.2.1)
  u32DispFrmRt := p.wh.2.2
  stDispRect := (0, 0, p.wh.1, p.wh.2.1)

/-- The attributes of the write-back, of half the size. -/
def stWbcAttr (p : Platform) : VoWbcAttr where
  stTargetSize := ((stLayerAttr p).stImageSize.1 / 2, (stLayerAttr p).stImageSize.2 / 2)
  u32FrameRate := (stLayerAttr p).u32DispFrmRt

/-- `hi3531dv100_vo_start`: the code it returns, and the calls it makes. -/
def hi3531dv100VoStart (p : Platform) (handle : Int32) : Int32 × List Call :=
  let voDev := handle
  let voLayer := voDev
  let voWbc := 0
  let startDev := Call.voStartDev voDev
  if hiSuccess ≠ p.ret startDev then
    end81080P3 (p.ret startDev) [startDev]
  else if hiSuccess ≠ p.ret .voGetWH then
    end81080P4 voDev (p.ret .voGetWH) [startDev, .voGetWH]
  else
  let startLayer := Call.voStartLayer voLayer (stLayerAttr p)
  if hiSuccess ≠ p.ret startLayer then
    end81080P4 voDev (p.ret startLayer) [startDev, .voGetWH, startLayer]
  else
  let startChn := Call.voStartChn voLayer
  if hiSuccess ≠ p.ret startChn then
    end81080P5 voDev voLayer (p.ret startChn) [startDev, .voGetWH, startLayer, startChn]
  else
  let bindVo := Call.wbcBindVo voWbc voDev
  if hiSuccess ≠ p.ret bindVo then
    end81080P5 voDev voLayer (p.ret bindVo) [startDev, .voGetWH, startLayer, startChn, bindVo]
  else
  let startWbc := Call.voStartWbc voWbc (stWbcAttr p)
  let s32Ret := p.ret startWbc
  if hiSuccess ≠ s32Ret then
    end81080P5 voDev voLayer s32Ret
      [startDev, .voGetWH, startLayer, startChn, bindVo, startWbc]
  -- the code of this call is not kept
  else if hiSuccess ≠ p.ret .voHdmiStart then
    end81080P6 voDev voLayer s32Ret
      [startDev, .voGetWH, startLayer, startChn, bindVo, startWbc, .voHdmiStart]
  else
    (s32Ret, [startDev, .voGetWH, startLayer, startChn, bindVo, startWbc, .voHdmiStart])

/-! ### `hi3531dv100_venc_start` -/

/-- `END_VENC_1080P_CLASSIC_3`. -/
def endVenc1080PClassic3 (s32Ret : Int32) (calls : List Call) : Int32 × List Call :=
  (s32Ret, calls)

/-- `END_VENC_1080P_CLASSIC_4`. -/
def endVenc1080PClassic4 (vencChn s32Ret : Int32) (calls : List Call) : Int32 × List Call :=
  endVenc1080PClassic3 s32Ret (calls ++ [.vencStop vencChn])

/-- The picture size of a mode. -/
def enSize (mode : String) : PicSize :=
  if mode = "HD720" then .hd720
  else if mode = "HD1080" then .hd1080
  else if mode = "WQXGA" then .wqxga
  else if mode = "UHD4K" then .uhd4k
  else if mode = "UHD1920X2160" then .uhd1920x2160
  else .hd1080

/-- The payload type of a payload. -/
def enPayLoad (payload : String) : PayloadType :=
  if payload = "h264" then .h264 else if payload = "h265" then .h265 else .h264

/-- `hi3531dv100_venc_start`: the code it returns, and the calls it makes.  `findVencByHandle` is
defined with the encoders. -/
def hi3531dv100VencStart (p : Platform) (findVencByHandle : Int32 → Checked (Option Element))
    (handle : Int32) : Checked (Int32 × List Call) := do
  let vencChn := handle
  match ← findVencByHandle handle with
  -- a null pointer is dereferenced
  | none => .error .badPointer
  | some venc =>
    let mode := venc.getAttrWord "VENC-MODE" "HD720"
    let payload := venc.getAttrWord "VENC-PAYLOAD" "h264"
    let srcFrm ← venc.getAttr "VENC-SRC-FRAMERATE" (60 : Int32)
    let dstFrm ← venc.getAttr "VENC-FRAMERATE" (15 : Int32)
    let start := Call.vencStart vencChn (enPayLoad payload) (enSize mode)
    if hiSuccess ≠ p.ret start then
      pure (endVenc1080PClassic3 (p.ret start) [start])
    else
    let getFrameRate := Call.vencGetFrameRate vencChn
    if hiSuccess ≠ p.ret getFrameRate then
      pure (endVenc1080PClassic3 (p.ret getFrameRate) [start, getFrameRate])
    else
    let setFrameRate := Call.vencSetFrameRate vencChn ⟨srcFrm, dstFrm⟩
    if hiSuccess ≠ p.ret setFrameRate then
      pure (endVenc1080PClassic3 (p.ret setFrameRate) [start, getFrameRate, setFrameRate])
    else
    let startGetStream := Call.vencStartGetStream handle
    if hiSuccess ≠ p.ret startGetStream then
      pure (endVenc1080PClassic4 vencChn (p.ret startGetStream)
        [start, getFrameRate, setFrameRate, startGetStream])
    else
      pure (p.ret startGetStream, [start, getFrameRate, setFrameRate, startGetStream])

end Mvr.Hi3531dv100Lib
