import Mvr.Element.Basic

/-!
# The media channels of the SSC339G

The elements `vif`, `vpe` and `venc` create channels of the vendor's modules, and `linkTo` binds the
port of one channel to that of another.  In the mode `regroup` there is a gap between the channels
that the thread of `vif::YUVdataProcess` fills: it copies its frames from a port of the VPE to one
of the DIVP.  All numbers of devices and channels are read from the elements' attributes, by each
element from its own.

A `Board` is what the elements leave behind: the calls of the vendor's library that were made, and
the threads that copy.  What the library answers is a parameter, `Sdk`.
-/

namespace Mvr.Ssc339g

/-- `MI_ModuleId_e`, of the modules the elements use. -/
inductive ModuleId where
  | vif
  | vpe
  | divp
  | venc
  deriving DecidableEq

/-- `MI_SYS_ChnPort_t`. -/
structure ChnPort where
  eModId : ModuleId
  u32DevId : UInt32
  u32ChnId : UInt32
  u32PortId : UInt32
  deriving DecidableEq

/-- The width and the height of a picture. -/
abbrev Size := ℕ × ℕ

/-- `MI_VENC_ModType_e`, of the types the encoders are created for. -/
inductive ModType where
  | h264e
  | h265e
  deriving DecidableEq

/-- A call of the vendor's library, under the words of its function (`MI_SNR_Enable` is
`snrEnable`): the pad, device, channel or port it is about, and the size it sets.  A variable that
the caller left uninitialised is `none`. -/
inductive Call where
  | snrSetPlaneMode (eSnrPadId : UInt32)
  | snrSetRes (eSnrPadId : UInt32)
  | snrEnable (eSnrPadId : UInt32)
  | snrGetPadInfo (eSnrPadId : UInt32)
  | snrGetPlaneInfo (eSnrPadId : UInt32)
  /-- The attributes come from the pad. -/
  | vifSetDevAttr (vifDev eSnrPadId : UInt32)
  | vifEnableDev (vifDev : UInt32)
  /-- The attributes come from the pad. -/
  | vifSetChnPortAttr (vifChn vifPort eSnrPadId : UInt32)
  | vifEnableChnPort (vifChn vifPort : UInt32)
  | sysSetChnMmaConf (eModId : ModuleId) (u32DevId u32ChnId : UInt32)
  | vpeSetChannelParam (vpeChannel : UInt32)
  | vpeCreateChannel (vpeChannel : UInt32) (eSensorBindId : Option UInt32)
  | vpeStartChannel (vpeChannel : UInt32)
  | vpeGetPortMode (vpeChannel vpePort : UInt32)
  | vpeSetPortMode (vpeChannel vpePort : UInt32) (size : Option Size)
  | vpeEnablePort (vpeChannel vpePort : UInt32)
  | divpCreateChn (divpChn : UInt32)
  | divpSetOutputPortAttr (divpChn : UInt32) (size : Option Size)
  | divpStartChn (divpChn : UInt32)
  | vencCreateChn (vencChn : UInt32) (eType : Option ModType) (size : Option Size)
  | vencGetChnDevid (vencChn : UInt32)
  | vencStartRecvPic (vencChn : UInt32)
  | sysBindChnPort2 (stSrcChnPort stDstChnPort : ChnPort)
  | sysSetChnOutputPortDepth (stChnPort : ChnPort) (u32UserFrameDepth u32BufQueueDepth : ℕ)
  | sysGetFd (stChnPort : ChnPort)
  deriving DecidableEq

/-- What the library answers; a call that is made again gets the same answer. -/
structure Sdk where
  /-- The return code, 0 for `MI_SUCCESS`. -/
  ret : Call → Int32
  /-- The device that `MI_VENC_GetChnDevid` names for a channel if it succeeds. -/
  chnDevid : UInt32 → UInt32

namespace Sdk

/-- The variable of a call of `MI_VENC_GetChnDevid`, which a failure leaves as it was. -/
def getChnDevid (sdk : Sdk) (vencChn u32DevId : UInt32) : UInt32 :=
  if sdk.ret (.vencGetChnDevid vencChn) = 0 then sdk.chnDevid vencChn else u32DevId

end Sdk

/-- A call in the code of an element. -/
inductive Stmt where
  /-- Its code is dropped. -/
  | call (c : Call)
  /-- `ExecFunc` and `STCHECKRESULT`: a failure ends the function. -/
  | execFunc (c : Call)

/-- The call that is made. -/
@[simp]
def Stmt.made : Stmt → Call
  | .call c => c
  | .execFunc c => c

/-- The calls that a function makes, and its result. -/
def run (sdk : Sdk) : List Stmt → List Call × Int32
  | [] => ([], 0)
  | .call c :: rest => (c :: (run sdk rest).1, (run sdk rest).2)
  | .execFunc c :: rest =>
    if sdk.ret c ≠ 0 then ([c], sdk.ret c) else (c :: (run sdk rest).1, (run sdk rest).2)

/-- A thread that copies frames from one port to another. -/
structure Copying where
  src : ChnPort
  dst : ChnPort
  /-- The size of the buffers it asks for. -/
  size : Option Size
  /-- The element whose attributes it composes with. -/
  vifElement : Element

/-- What the elements leave behind. -/
structure Board where
  made : List Call
  copied : List Copying

namespace Board

/-- Nothing is set up. -/
def empty : Board := ⟨[], []⟩

instance : Append Board := ⟨fun b b' => ⟨b.made ++ b'.made, b.copied ++ b'.copied⟩⟩

end Board

/-! ### Attributes -/

/-- `atoi(elem->getAttr(name, "0").c_str())`, as the 32 bits of it. -/
def attrNum (elem : Element) (name : String) : UInt32 :=
  (CText.atoi (elem.getAttrWord name "0")).toUInt32

/-- The width and the height that a name stands for; other names leave the variables
uninitialised. -/
def resolution (name : String) : Option Size :=
  if name = "4K" then some (3840, 2160)
  else if name = "FHD" then some (1920, 1080)
  else if name = "HD" then some (1280, 720)
  else none

/-! ### `vif` -/

/-- `vifDev`. -/
def vifDev (vif : Element) : UInt32 := attrNum vif "vifDev"

/-- `vifChn`. -/
def vifChn (vif : Element) : UInt32 := vifDev vif * 4

/-- `eSnrPadId`. -/
def eSnrPadId (vif : Element) : UInt32 := attrNum vif "eSnrPad"

/-- `u32InputPort`. -/
def u32InputPort (vif : Element) : UInt32 := attrNum vif "u32InputPort"

/-- `vif::startSelf`; the results of `ST_Vif_CreatePort` and `ST_Vif_StartPort` are dropped too. -/
def vifStartSelf (vif : Element) : List Stmt :=
  [.call (.snrSetPlaneMode (eSnrPadId vif)),
    .call (.snrSetRes (eSnrPadId vif)),
    .call (.snrEnable (eSnrPadId vif)),
    .call (.snrGetPadInfo (eSnrPadId vif)),
    .call (.snrGetPlaneInfo (eSnrPadId vif)),
    .call (.vifSetDevAttr (vifDev vif) (eSnrPadId vif)),
    .call (.vifEnableDev (vifDev vif)),
    -- `ST_Vif_CreatePort`
    .call (.vifSetChnPortAttr (vifChn vif) (u32InputPort vif) (eSnrPadId vif)),
    -- `ST_Vif_StartPort`, which is given device 0
    .call (.sysSetChnOutputPortDepth ⟨.vif, 0, vifChn vif, u32InputPort vif⟩ 0 6),
    .call (.vifEnableChnPort (vifChn vif) (u32InputPort vif)),
    .call (.sysSetChnMmaConf .vif 0 (vifChn vif))]

/-- The source that `vif::linkTo` binds. -/
def vifPort (vif : Element) : ChnPort := ⟨.vif, vifDev vif, vifChn vif, 0⟩

/-- The destination that `vif::linkTo` binds. -/
def vifDst (vif : Element) : ChnPort := ⟨.vpe, 0, vifDev vif, 0⟩

/-- `stChnPort` of `YUVdataProcess`. -/
def copySrc (vif : Element) : ChnPort := ⟨.vpe, vifDev vif, vifDev vif, 0⟩

/-- `stVencChnInput` of `YUVdataProcess`. -/
def copyDst (sdk : Sdk) : ChnPort := ⟨.divp, sdk.getChnDevid 0 0, 0, 0⟩

/-- `vencResolution` of `YUVdataProcess`. -/
def vencResolution (vif : Element) : Option Size := resolution (vif.getAttrWord "resolution" "FHD")

/-- The thread of `YUVdataProcess` up to its loop, which it reaches if its port can be set up. -/
def yuvDataProcess (sdk : Sdk) (vif : Element) : Board :=
  let r := run sdk
    [.execFunc (.sysSetChnOutputPortDepth (copySrc vif) 2 3), .execFunc (.sysGetFd (copySrc vif))]
  if r.2 ≠ 0 then
    ⟨r.1, []⟩
  else
    ⟨r.1 ++ [.vencGetChnDevid 0], [⟨copySrc vif, copyDst sdk, vencResolution vif, vif⟩]⟩

/-- `vif::linkTo`. -/
def vifLinkTo (sdk : Sdk) (vif elem : Element) : Board :=
  if elem.mClassName = "vpe" then
    let r := run sdk [.execFunc (.sysBindChnPort2 (vifPort vif) (vifDst vif))]
    if r.2 ≠ 0 then ⟨r.1, []⟩
    else if vif.getAttrWord "mode" "0" = "regroup" then ⟨r.1, []⟩ ++ yuvDataProcess sdk vif
    else ⟨r.1, []⟩
  else
    .empty

/-! ### `vpe` -/

/-- `vpechn`. -/
def vpeChn (vpe : Element) : UInt32 := attrNum vpe "vpeChn"

/-- The element sends its frames straight to the encoder. -/
def NoRegroup (vpe : Element) : Prop := vpe.getAttrWord "ReGropMode" "0" = "No-Regroup"

instance (vpe : Element) : Decidable (NoRegroup vpe) := inferInstanceAs (Decidable (_ = _))

/-- `eBindSensorId`, by the number of its sensor. -/
def eBindSensorId (vpe : Element) : Option UInt32 :=
  if vpe.getAttrWord "sensorId" "0" = "0" then some 0
  else if vpe.getAttrWord "sensorId" "0" = "1" then some 1
  else none

/-- `vpeResolution`, the size of the pictures that leave the port of the VPE channel. -/
def vpeResolution (vpe : Element) : Option Size := resolution (vpe.getAttrWord "resolution" "FHD")

/-- `scaleResolution`. -/
def scaleResolution (vpe : Element) : Option Size := resolution (vpe.getAttrWord "scale" "FHD")

/-- The size of the pictures that leave the DIVP channel. -/
def divpResolution (vpe : Element) : Option Size := do
  let scale ← scaleResolution vpe
  let vpe ← vpeResolution vpe
  -- the height is not that of the scale
  pure (scale.1, vpe.2)

/-- `ST_Vpe_StartPort`. -/
def stVpeStartPort (chn port : UInt32) (size : Option Size) : List Stmt :=
  [.execFunc (.vpeGetPortMode chn port),
    .execFunc (.vpeSetPortMode chn port size),
    .execFunc (.sysSetChnOutputPortDepth ⟨.vpe, 0, chn, port⟩ 0 5),
    .execFunc (.vpeEnablePort chn port)]

/-- `Vpe::startSelf`; the results of `ST_Vpe_CreateChannel` and `ST_Vpe_StartChannel` are
dropped. -/
def vpeStartSelf (vpe : Element) : List Stmt :=
  [.call (.vpeSetChannelParam (vpeChn vpe)),
    .call (.vpeCreateChannel (vpeChn vpe) (eBindSensorId vpe)),
    .call (.vpeStartChannel (vpeChn vpe))] ++
  stVpeStartPort (vpeChn vpe) 0 (vpeResolution vpe) ++
  (if NoRegroup vpe then []
  else
    [.execFunc (.divpCreateChn 0),
      .call (.divpSetOutputPortAttr 0 (divpResolution vpe)),
      .execFunc (.divpStartChn 0)])

/-- The source that `Vpe::linkTo` binds. -/
def vpeSrc (vpe : Element) : ChnPort :=
  if NoRegroup vpe then ⟨.vpe, 0, vpeChn vpe, 0⟩ else ⟨.divp, 0, 0, 0⟩

/-- The destination that `Vpe::linkTo` binds. -/
def vpeDst (sdk : Sdk) (vpe : Element) : ChnPort :=
  ⟨.venc, sdk.getChnDevid (attrNum vpe "vencChn") 0xff, attrNum vpe "vencChn", 0⟩

/-- `Vpe::linkTo`. -/
def vpeLinkTo (sdk : Sdk) (vpe elem : Element) : Board :=
  if elem.mClassName = "venc" then
    ⟨(run sdk [.call (.vencGetChnDevid (attrNum vpe "vencChn")),
      .execFunc (.sysBindChnPort2 (vpeSrc vpe) (vpeDst sdk vpe))]).1, []⟩
  else
    .empty

/-! ### `venc` -/

/-- `VencChn`. -/
def vencChn (venc : Element) : UInt32 := attrNum venc "vencChn"

/-- `eType`. -/
def eType (venc : Element) : Option ModType :=
  if venc.getAttrWord "compressionType" "H264" = "H264" then some .h264e
  else if venc.getAttrWord "compressionType" "H264" = "H265" then some .h265e
  else none

/-- The size of the pictures that the encoder is created for. -/
def vencSize (venc : Element) : Option Size := resolution (venc.getAttrWord "resolution" "0")

/-- `VENCSSC339G::startSelfData`; the type is not that of the JPEG encoder, unless the attribute
left it uninitialised. -/
def vencStartSelfData (venc : Element) : List Stmt :=
  [.execFunc (.vencCreateChn (vencChn venc) (eType venc) (vencSize venc)),
    .execFunc (.vencGetChnDevid (vencChn venc)),
    .execFunc (.vencStartRecvPic (vencChn venc))]

/-! ### A channel -/

/-- The three elements of a channel. -/
structure Channel where
  vif : Element
  vpe : Element
  venc : Element
  vif_class : vif.mClassName = "vif"
  vpe_class : vpe.mClassName = "vpe"
  venc_class : venc.mClassName = "venc"

/-- `startSelf` of an element, and `startSelfData` of an encoder. -/
def startSelf (self : Element) : List Stmt :=
  if self.mClassName = "vif" then vifStartSelf self
  else if self.mClassName = "vpe" then vpeStartSelf self
  else if self.mClassName = "venc" then vencStartSelfData self
  else []

/-- `linkTo` of an element; that of `venc` and that of `rtsp-server` link nothing. -/
def linkTo (sdk : Sdk) (self elem : Element) : Board :=
  if self.mClassName = "vif" then vifLinkTo sdk self elem
  else if self.mClassName = "vpe" then vpeLinkTo sdk self elem
  else .empty

/-- The calls of `NovaEncoderInit` that start the elements of a channel, whose results are
dropped. -/
def startElements (sdk : Sdk) (vif vpe venc : Element) : Board :=
  ⟨(run sdk (startSelf vif)).1 ++ (run sdk (startSelf vpe)).1 ++ (run sdk (startSelf venc)).1, []⟩

/-- The calls of `Player::start` for the elements of a channel, the last element first, with the
elements they are linked to. -/
def connect (sdk : Sdk) (vif vpe venc vpe' venc' rtsp' : Element) : Board :=
  linkTo sdk venc rtsp' ++ linkTo sdk vpe venc' ++ linkTo sdk vif vpe'

/-- A channel by itself. -/
def Channel.board (sdk : Sdk) (ch : Channel) : Board :=
  startElements sdk ch.vif ch.vpe ch.venc ++
    connect sdk ch.vif ch.vpe ch.venc ch.vpe ch.venc (Element.new "rtsp-server")

end Mvr.Ssc339g
