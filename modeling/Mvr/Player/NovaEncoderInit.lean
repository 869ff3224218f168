import Mvr.Player.Layout
import Mvr.LiveRtspServer.Basic
import Mvr.ToString.Basic

/-!
# `Player::NovaEncoderInit`

The set-up of channel 0, up to the calls that start the elements: the layout is read from the
configuration, the four elements of the pipeline are created, and their attributes are set.  The
layout the `vif` element starts with is handed over through its attributes `dst_horizontal_blks`,
`dst_vertical_blks`, `layNum` and `tabId<i>`.
-/

namespace Mvr.Player

/-- The fields of `Nova_EnocderCfg` that the set-up reads. -/
structure NovaEncoderCfg where
  frameRate : UInt16
  bitRate : UInt32
  lenght : UInt16

/-- The elements of channel 0. -/
structure Pipeline where
  mElemHead : Element
  elemVps : Element
  elemVenc0 : Element
  rtspServer0 : LiveRtspServer

/-- The variables of the loop that hands the table over; `broke` is set by its `break`. -/
structure HandOff where
  tab : LayoutTab
  head : Element
  broke : Bool

/-- One round of the loop. -/
def handOffStep (s : HandOff) (i : Fin maxLayerNums) : HandOff :=
  if s.broke then
    s
  else
    -- the entry is overwritten before it is tested
    let tab := s.tab.set i (Int32.ofNat i) i.isLt
    if tab[i] ≠ -1 then
      { s with
        tab := tab
        head := s.head.setAttr ("tabId" ++ toString (Int32.ofNat i)) (toString tab[i]) }
    else
      { s with tab := tab, broke := true }

/-- The attributes of the `vif` element before the table is handed over. -/
def vifAttrs (dstHorizontalBlks dstVerticalBlks : Int32) : Element :=
  (((((((((Element.new "vif").setAttr "eSnrPad" "0").setAttr "vifDev" "0").setAttr
    "u32InputPort" "0").setAttr "vencChn" "0").setAttr "resolution" "4K").setAttr
    "mode" "regroup").setAttr "dst_horizontal_blks" (toString dstHorizontalBlks)).setAttr
    "dst_vertical_blks" (toString dstVerticalBlks)).setAttr "layNum" "64"

/-- The attributes of the `vpe` element, the one of its constructor first. -/
def vpeAttrs : Element :=
  (((((((Element.new "vpe").setAttr "SECOND_VPE_CHNID" "2").setAttr "vpeChn" "0").setAttr
    "vencChn" "0").setAttr "pixelFormat" "35").setAttr "sensorId" "0").setAttr
    "resolution" "4K").setAttr "scale" "FHD"

/-- The attributes of the `venc` element. -/
def vencAttrs (novaCfg : NovaEncoderCfg) : Element :=
  ((((((Element.new "venc").setAttr "vencChn" "0").setAttr "resolution" "FHD").setAttr
    "compressionType" "H264").setAttr
    "frameData" (toString novaCfg.frameRate.toUInt32.toInt32)).setAttr
    "biteRate" (toString novaCfg.bitRate.toInt32)).setAttr
    "Gop" (toString novaCfg.lenght.toUInt32.toInt32)

/-- The RTSP server of channel 0. -/
def rtspServerAttrs : LiveRtspServer :=
  { LiveRtspServer.new with
    toElement := (LiveRtspServer.new.toElement.setAttr "port" (554 : Int32)).setAttr
      "payload" "h264" }

/-- The set-up part of `NovaEncoderInit(0, nova_cfg, …)`. -/
def novaEncoderInit (g : Globals) (novaCfg : NovaEncoderCfg) : Checked (Globals × Pipeline) := do
  let g := { g with layerLayoutTab := identityTab }
  let g ← readLayoutConf g
  -- the grid that was just loaded is not used
  let g := { g with dstHorizontalBlks := 8, dstVerticalBlks := 8 }
  let handOff := (List.finRange maxLayerNums).foldl handOffStep
    ⟨g.layerLayoutTab, vifAttrs g.dstHorizontalBlks g.dstVerticalBlks, false⟩
  pure ({ g with layerLayoutTab := handOff.tab },
    { mElemHead := handOff.head
      elemVps := vpeAttrs
      elemVenc0 := vencAttrs novaCfg
      rtspServer0 := rtspServerAttrs })

end Mvr.Player
