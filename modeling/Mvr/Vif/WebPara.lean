import Mvr.Element.Basic
import Mvr.ToString.Basic
import Mathlib.Data.Vector.Basic

/-!
# The layout of the frame composer

For every frame `vif::YUVdataProcess` decodes the layout it composes with (`TY_WEB_PARA`) from the
attributes of the element.
-/

namespace Mvr.Vif

/-- `MAX_LAYER_NUMS` of `vif_element.cpp`. -/
abbrev maxLayerNums : ℕ := 128

/-- `TY_WEB_PARA`. -/
structure WebPara where
  dstHorizontalBlks : Int32
  dstVerticalBlks : Int32
  layerLayoutTab : Vector Int32 maxLayerNums

/-- `"tabId" + to_String(i)`. -/
def tabKey (i : ℕ) : String := "tabId" ++ toString (Int32.ofNat i)

/-- The part of `YUVdataProcess` that fills `webPara`. -/
def webPara (vifElement : Element) : Checked WebPara := do
  let layNum := CText.atoi (vifElement.getAttrWord "layNum" "0")
  let tab ← (List.range layNum.toInt.toNat).foldlM (fun tab (i : ℕ) =>
    Checked.set tab i (CText.atoi (vifElement.getAttrWord (tabKey i) "0")))
    (Vector.replicate maxLayerNums 0)
  pure {
    dstHorizontalBlks := CText.atoi (vifElement.getAttrWord "dst_horizontal_blks" "0")
    dstVerticalBlks := CText.atoi (vifElement.getAttrWord "dst_vertical_blks" "0")
    layerLayoutTab := tab }

end Mvr.Vif
