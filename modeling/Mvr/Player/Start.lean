import Mvr.Player.NovaEncoderInit
import Mvr.Ssc339g.Basic

/-!
# `Player::getInstance` and `Player::start`

A player has two channels, each set up by `NovaEncoderInit` for the number that `main` was given,
which starts the elements too.  Channel 0 regroups the frames of its sensor, channel 1 sends them
straight to its encoder.  `start` links the elements of the first channel, and then those of the
second; the elements the second ones are linked to are those of the first channel.
-/

namespace Mvr.Player

/-- The attributes of the `vif` element of channel 1. -/
def vifAttrs1 : Element :=
  (((((Element.new "vif").setAttr "eSnrPad" "1").setAttr "vifDev" "2").setAttr
    "u32InputPort" "0").setAttr "vencChn" "2").setAttr "resolution" "HD"

/-- The attributes of the `vpe` element of channel 1, the one of its constructor first. -/
def vpeAttrs1 : Element :=
  (((((((Element.new "vpe").setAttr "SECOND_VPE_CHNID" "2").setAttr "vpeChn" "2").setAttr
    "vencChn" "2").setAttr "pixelFormat" "44").setAttr "sensorId" "1").setAttr
    "resolution" "HD").setAttr "ReGropMode" "No-Regroup"

/-- The attributes of the `venc` element of channel 1. -/
def vencAttrs1 (novaCfg : NovaEncoderCfg) : Element :=
  ((((((Element.new "venc").setAttr "vencChn" "2").setAttr "resolution" "HD").setAttr
    "compressionType" "H264").setAttr
    "frameData" (toString novaCfg.frameRate.toUInt32.toInt32)).setAttr
    "biteRate" (toString novaCfg.bitRate.toInt32)).setAttr
    "Gop" (toString novaCfg.lenght.toUInt32.toInt32)

/-- The RTSP server of channel 1. -/
def rtspServerAttrs1 : LiveRtspServer :=
  { LiveRtspServer.new with
    toElement := (LiveRtspServer.new.toElement.setAttr "port" (555 : Int32)).setAttr
      "payload" "h264" }

/-- The set-up part of `NovaEncoderInit` for any channel. -/
def novaEncoderInitOf (g : Globals) (channel : Int32) (novaCfg : NovaEncoderCfg) :
    Checked (Globals × Pipeline) :=
  if channel = 0 then
    novaEncoderInit g novaCfg
  else if channel = 1 then
    pure (g,
      { mElemHead := vifAttrs1
        elemVps := vpeAttrs1
        elemVenc0 := vencAttrs1 novaCfg
        rtspServer0 := rtspServerAttrs1 })
  else
    -- the function ends without a value
    .error .unspecified

/-- The heads of the two channels, with the elements that follow them. -/
structure Instance where
  mElemHead1 : Pipeline
  mElemHead2 : Pipeline

/-- `Player::getInstance`. -/
def getInstance (g : Globals) (chn1 chn2 : Int32) : Checked (Globals × Instance) :=
  novaEncoderInitOf g chn1 ⟨20, 1024 * 1024 * 2, 30⟩ >>= fun r1 =>
    novaEncoderInitOf r1.1 chn2 ⟨30, 1024 * 1024 * 2, 30⟩ >>= fun r2 =>
      pure (r2.1, ⟨r1.2, r2.2⟩)

/-- The calls of `NovaEncoderInit` that start the elements of a channel. -/
def Pipeline.startElements (sdk : Ssc339g.Sdk) (p : Pipeline) : Ssc339g.Board :=
  Ssc339g.startElements sdk p.mElemHead p.elemVps p.elemVenc0

/-- `Player::start`. -/
def Instance.start (sdk : Ssc339g.Sdk) (player : Instance) : Ssc339g.Board :=
  let p1 := player.mElemHead1
  let p2 := player.mElemHead2
  Ssc339g.connect sdk p1.mElemHead p1.elemVps p1.elemVenc0 p1.elemVps p1.elemVenc0
    p1.rtspServer0.toElement ++
  -- to the elements of the first channel
  Ssc339g.connect sdk p2.mElemHead p2.elemVps p2.elemVenc0 p1.elemVps p1.elemVenc0
    p1.rtspServer0.toElement

/-- What is on the board once the player runs. -/
def Instance.board (sdk : Ssc339g.Sdk) (player : Instance) : Ssc339g.Board :=
  player.mElemHead1.startElements sdk ++ player.mElemHead2.startElements sdk ++ player.start sdk

end Mvr.Player
