import Mvr.Lts.Basic
import Mvr.Player.NovaEncoderInit
import Mvr.Player.Register

/-!
# Clients during the start-up

`NovaEncoderInit` has the layout server started by another thread before it sets the variables of
the layout, so that clients may come in between any two of its statements.  `setUp` is the next
statement of the start-up, and the steps of a `System` interleave the statements with the calls of
the server.
-/

namespace Mvr.Player.EarlyClients

/-- The next statement of the start-up that works on the layout. -/
inductive Pc where
  | setHorizontalBlks
  | setVerticalBlks
  | attrHorizontalBlks
  | attrVerticalBlks
  /-- `layer_layout_tab[i] = i`. -/
  | assign (i : Fin maxLayerNums)
  /-- `if (layer_layout_tab[i] != -1)`. -/
  | test (i : Fin maxLayerNums)
  /-- The text of the entry is read and set as an attribute. -/
  | attrTab (i : Fin maxLayerNums)
  | done
  deriving DecidableEq

/-- The globals, and the `vif` element of the start-up. -/
structure System where
  g : Globals
  mElemHead : Element
  pc : Pc

/-- The attributes of the `vif` element before those of the layout. -/
def headAttrs : Element :=
  ((((((Element.new "vif").setAttr "eSnrPad" "0").setAttr "vifDev" "0").setAttr
    "u32InputPort" "0").setAttr "vencChn" "0").setAttr "resolution" "4K").setAttr "mode" "regroup"

/-- The server has started. -/
def init (g : Globals) : System := ⟨g, headAttrs, .setHorizontalBlks⟩

/-- The end of a round of the loop. -/
def nextLayer (i : Fin maxLayerNums) : Pc :=
  if h : i + 1 < maxLayerNums then .assign ⟨i + 1, h⟩ else .done

/-- A statement of the start-up, none after the last one. -/
def setUp (s : System) : Option System :=
  match s.pc with
  | .setHorizontalBlks =>
    some { s with g := { s.g with dstHorizontalBlks := 8 }, pc := .setVerticalBlks }
  | .setVerticalBlks =>
    some { s with g := { s.g with dstVerticalBlks := 8 }, pc := .attrHorizontalBlks }
  | .attrHorizontalBlks =>
    some { s with
      mElemHead := s.mElemHead.setAttr "dst_horizontal_blks" (toString s.g.dstHorizontalBlks)
      pc := .attrVerticalBlks }
  | .attrVerticalBlks =>
    some { s with
      mElemHead := (s.mElemHead.setAttr "dst_vertical_blks"
        (toString s.g.dstVerticalBlks)).setAttr "layNum" "64"
      pc := .assign ⟨0, by decide⟩ }
  | .assign i =>
    some { s with
      g := { s.g with layerLayoutTab := s.g.layerLayoutTab.set i (Int32.ofNat i) i.isLt }
      pc := .test i }
  | .test i =>
    if s.g.layerLayoutTab.get i ≠ -1 then some { s with pc := .attrTab i }
    else some { s with pc := .done }
  | .attrTab i =>
    some { s with
      mElemHead := s.mElemHead.setAttr ("tabId" ++ toString (Int32.ofNat i))
        (toString (s.g.layerLayoutTab.get i))
      pc := nextLayer i }
  | .done => none

/-- What happens while the program starts. -/
inductive Label where
  | setUp
  | call (c : ServerCall)

/-- The statements of the start-up and the calls of the server.  A call that faults is none. -/
inductive Step (parser : JsonParser) : System → Label → System → Prop
  | setUp {s s' : System} (h : EarlyClients.setUp s = some s') : Step parser s .setUp s'
  | call {s : System} {c : ServerCall} {g : Globals} {reply : Option CfJson}
      (h : serve parser s.g c = .ok (g, reply)) : Step parser s (.call c) { s with g := g }

/-- What is asked of the layout: a statement of the start-up asks nothing. -/
inductive Asks : Label → Option Register.Call → Prop
  | setUp : Asks .setUp none
  | call {c : ServerCall} {k : Register.Call} (h : Means c k) : Asks (.call c) (some k)

/-- What matters of a run: the statements of the start-up, and the last layout that was asked for
with the number of statements before it. -/
structure History where
  statements : ℕ
  before : ℕ
  rows : ℕ
  cols : ℕ

namespace History

/-- The server has started with a grid. -/
def start (rows cols : ℕ) : History := ⟨0, 0, rows, cols⟩

/-- The history after a step. -/
def after (h : History) : Option Register.Call → History
  | none => { h with statements := h.statements + 1 }
  | some (.write L) => { h with before := h.statements, rows := L.rows, cols := L.cols }
  | some _ => h

/-- The rows of the last layout are taken with the eight columns of the start-up, or its columns
with the eight rows, and there are more cells than entries of the table. -/
def Overruns (h : History) : Prop :=
  (h.before = 0 ∧ h.statements = 1 ∧ 16 < h.rows) ∨
    (h.before = 1 ∧ 2 ≤ h.statements ∧ 16 < h.cols)

instance (h : History) : Decidable h.Overruns := by
  unfold Overruns
  infer_instance

end History

/-- The history of what was asked of globals. -/
def history (g : Globals) (ks : List (Option Register.Call)) : History :=
  ks.foldl History.after (.start g.dstVerticalBlks.toInt.toNat g.dstHorizontalBlks.toInt.toNat)

end Mvr.Player.EarlyClients
