import Mvr.Vif.WebPara
import Mvr.ToString.Equiv

/-!
# What the frame composer decodes

`webPara_eq_ok`: with at most `MAX_LAYER_NUMS` layers the decoding stays inside the table, and its
entries are the numbers under the keys `tabId<i>`, which are different for different layers
(`tabKey_inj`).
-/

namespace Mvr.Vif

theorem toInt_ofNat_layer {i : ℕ} (hi : i < maxLayerNums) : (Int32.ofNat i).toInt = i :=
  Int32.toInt_ofNat_of_lt (by
    have hmax : maxLayerNums = 128 := rfl
    omega)

/-- Different layers have different keys. -/
theorem tabKey_inj {i j : ℕ} (hi : i < maxLayerNums) (hj : j < maxLayerNums)
    (h : tabKey i = tabKey j) : i = j := by
  -- the keys share their first five characters
  have htext : decimalText (Int32.ofNat i) = decimalText (Int32.ofNat j) :=
    (String.append_right_inj "tabId").mp h
  have hi' := toInt_ofNat_layer hi
  have hj' := toInt_ofNat_layer hj
  have heq := decimalText_injOn (by omega) (by omega) htext
  rw [heq] at hi'
  omega

/-- No other attribute of the element has the key of a layer. -/
theorem ne_tabKey {name : String} (h : name.toList.head? ≠ some 't') (i : ℕ) :
    name ≠ tabKey i := by
  rintro rfl
  apply h
  unfold tabKey
  rw [String.toList_append]
  rfl

/-- The entries that the decoding loop writes. -/
def layerWrites (e : Element) (n : ℕ) : List (ℕ × Int32) :=
  (List.range n).map fun i => (i, CText.atoi (e.getAttrWord (tabKey i) "0"))

theorem lastWrite_layerWrites (e : Element) {i n : ℕ} (hi : i < n) :
    lastWrite (layerWrites e n) i = some (CText.atoi (e.getAttrWord (tabKey i) "0")) := by
  have hkeys : (layerWrites e n).map Prod.fst = List.range n := by
    unfold layerWrites
    rw [List.map_map]
    exact List.map_id _
  rw [lastWrite_eq_some_iff_of_nodup (hkeys ▸ List.nodup_range)]
  exact List.mem_map.mpr ⟨i, List.mem_range.mpr hi, rfl⟩

theorem webParaLoop_eq_ok (e : Element) {n : ℕ} (hn : n ≤ maxLayerNums)
    (tab : Vector Int32 maxLayerNums) :
    (List.range n).foldlM (fun tab (i : ℕ) =>
      Checked.set tab i (CText.atoi (e.getAttrWord (tabKey i) "0"))) tab =
      .ok ((layerWrites e n).foldl (fun tab w => tab.setIfInBounds w.1 w.2) tab) := by
  unfold layerWrites
  rw [List.foldl_map]
  apply Checked.foldlM_eq_ok tab
  intro tab i hi
  have hlt := List.mem_range.mp hi
  exact Checked.set_eq_ok tab ⟨by omega, by omega⟩ _

/-- The decoded layout. -/
theorem webPara_eq_ok {e : Element} {n : ℕ} (hn : n ≤ maxLayerNums)
    (h : (CText.atoi (e.getAttrWord "layNum" "0")).toInt = n) :
    ∃ web, webPara e = .ok web ∧
      web.dstHorizontalBlks = CText.atoi (e.getAttrWord "dst_horizontal_blks" "0") ∧
      web.dstVerticalBlks = CText.atoi (e.getAttrWord "dst_vertical_blks" "0") ∧
      ∀ i < n, web.layerLayoutTab[i]? = some (CText.atoi (e.getAttrWord (tabKey i) "0")) := by
  have hdecode : webPara e = .ok {
      dstHorizontalBlks := CText.atoi (e.getAttrWord "dst_horizontal_blks" "0")
      dstVerticalBlks := CText.atoi (e.getAttrWord "dst_vertical_blks" "0")
      layerLayoutTab := (layerWrites e n).foldl (fun tab w => tab.setIfInBounds w.1 w.2)
        (Vector.replicate maxLayerNums 0) } := by
    unfold webPara
    dsimp only
    rw [h, Int.toNat_natCast, webParaLoop_eq_ok e hn]
    rfl
  refine ⟨_, hdecode, rfl, rfl, fun i hi => ?_⟩
  rw [Vector.getElem?_eq_getElem (by omega), getElem_foldl_setIfInBounds _ _ (by omega),
    lastWrite_layerWrites e hi]
  rfl

end Mvr.Vif
