import Mvr.Vif.ReorganizeYuv
import Mvr.Ledger.Basic
import Mvr.Lts.Basic

/-!
# The regroup loop

`vif::YUVdataProcess` waits for a captured frame, borrows it from the output port of the previous
stage, borrows a buffer from the input port of the encoder, composes the one into the other and puts
both back.  An iteration is a function of what the outside world answers (`Outcomes`); the variables
that live across iterations are those of the function, with `none` for one that was never written.
-/

namespace Mvr.Vif

/-- `MI_SYS_BUF_HANDLE`. -/
abbrev Handle := Int32

/-- The two ports that hand out buffers. -/
inductive Port where
  | output
  | input
  deriving DecidableEq, Repr

/-- The calls of the loop that concern a buffer. -/
inductive Call where
  /-- A successful `MI_SYS_ChnOutputPortGetBuf` or `MI_SYS_ChnInputPortGetBuf`. -/
  | getBuf (port : Port) (handle : Handle)
  /-- `reorganizeYUV` between the buffers of the two handles. -/
  | reorganizeYUV (hHandle hVencHandle : Option Handle)
  /-- `MI_SYS_ChnOutputPortPutBuf` or `MI_SYS_ChnInputPortPutBuf`. -/
  | putBuf (port : Port) (handle : Option Handle)
  deriving DecidableEq, Repr

/-- What the calls of one iteration answer, and the element as its attributes are then. -/
structure Outcomes where
  select : Int32
  fdIsSet : Bool
  outputPortGetBuf : Int32
  hHandle : Handle
  stBufInfo : FrameData
  inputPortGetBuf : Int32
  hVencHandle : Handle
  stVencBufInfo : FrameData
  vifElement : Element

/-- The variables of the loop, and the calls made so far. -/
structure Regroup where
  hHandle : Option Handle
  hVencHandle : Option Handle
  calls : List Call

/-- The variables before the loop. -/
def Regroup.init : Regroup := { hHandle := none, hVencHandle := none, calls := [] }

/-- A call is made. -/
def Regroup.call (s : Regroup) (c : Call) : Regroup := { s with calls := s.calls ++ [c] }

/-- The part of the body that composes the frame. -/
def Regroup.compose (s : Regroup) (o : Outcomes) : Checked Regroup := do
  let webPara ← webPara o.vifElement
  let _ ← Vif.reorganizeYUV o.stBufInfo o.stVencBufInfo webPara
  pure (s.call (.reorganizeYUV s.hHandle s.hVencHandle))

/-- The body of the loop.  `ret` is a `MI_U32`. -/
def Regroup.body (s : Regroup) (o : Outcomes) : Checked Regroup := do
  let ret := o.select.toUInt32
  if ret < 0 then
    pure s
  else if ret = 0 then
    pure s
  else if o.fdIsSet then
    let ret := o.outputPortGetBuf.toUInt32
    if ret ≠ 0 then
      pure (s.call (.putBuf .output s.hHandle))
    else
      let s : Regroup := { s with hHandle := some o.hHandle }
      let s := s.call (.getBuf .output o.hHandle)
      let ret := o.inputPortGetBuf.toUInt32
      let s ←
        if ret = 0 then
          let s : Regroup := { s with hVencHandle := some o.hVencHandle }
          (s.call (.getBuf .input o.hVencHandle)).compose o
        else
          pure s
      pure ((s.call (.putBuf .input s.hVencHandle)).call (.putBuf .output s.hHandle))
  else
    pure s

/-- An iteration of the loop that comes to its end. -/
def Regroup.Step (s : Regroup) (o : Outcomes) (s' : Regroup) : Prop := s.body o = .ok s'

/-- What a call does to the buffers, each named by its port and handle. -/
def Call.events : Call → List (Ledger.Event (Port × Option Handle))
  | getBuf port handle => [.acquire (port, some handle)]
  | reorganizeYUV hHandle hVencHandle => [.use (.output, hHandle), .use (.input, hVencHandle)]
  | putBuf port handle => [.release (port, handle)]

/-- The events of the buffers in a run. -/
def Regroup.events (s : Regroup) : List (Ledger.Event (Port × Option Handle)) :=
  s.calls.flatMap Call.events

/-- The iteration reaches `MI_SYS_ChnOutputPortGetBuf`. -/
def Outcomes.Reached (o : Outcomes) : Prop := o.select ≠ 0 ∧ o.fdIsSet = true

/-- Every buffer the iteration asks for is handed out. -/
def Outcomes.GetsSucceed (o : Outcomes) : Prop :=
  o.Reached → o.outputPortGetBuf = 0 ∧ o.inputPortGetBuf = 0

end Mvr.Vif
