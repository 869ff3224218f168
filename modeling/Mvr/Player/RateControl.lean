import Mvr.LiveRtspServer.Basic
import Mvr.WebSocketServerImplcFwk.Basic

/-!
# The rate controller

`ws_cli_max_pending_changed_handler` sets the frame rate of an encoder by the pending count of the
slowest websocket client: above 8 it lowers the rate by a tenth, below 2 it raises it by a tenth,
and in between it leaves it.  `WebsocketServer::startSelf` registers it with
`WebSocketServerImplcFWK`, whose `on_cli_read` calls it; `reportRun` is a run of that composition
over reports of the clients.
-/

namespace Mvr.Player

/-- `MAX_FRAME_RATE`. -/
def maxFrameRate : Int32 := 15

/-- `MIN_FRAME_RATE`. -/
def minFrameRate : Int32 := 5

/-- The frame rate for a pending count, before it is clamped. -/
def steerFrameRate (maxPendings frameRate : Int32) : Int32 :=
  if maxPendings > 8 then
    let tRate := frameRate * 9 / 10
    -- where rounding leaves the rate as it is, one frame is the step
    if frameRate = tRate then tRate - 1 else tRate
  else if maxPendings < 2 then
    let tRate := frameRate * 11 / 10
    if frameRate = tRate then tRate + 1 else tRate
  else
    frameRate

/-- The frame rate inside its bounds. -/
def clampFrameRate (frameRate : Int32) : Int32 :=
  if frameRate > maxFrameRate then maxFrameRate
  else if frameRate < minFrameRate then minFrameRate
  else frameRate

/-- `ws_cli_max_pending_changed_handler` on `elem`; `isVps` says that it is `elemVps`.  The count is
cast from `uint32_t` through a pointer to `int`. -/
def wsCliMaxPendingChangedHandler (isVps : Bool) (rtspServer0 : Option LiveRtspServer)
    (elem : Element) (eventPara : UInt32) : Checked Element := do
  let frameRate ← elem.getAttr "VENC-FRAMERATE" (15 : Int32)
  let frameRate := clampFrameRate (steerFrameRate eventPara.toInt32 frameRate)
  if isVps then
    pure (elem.setAttr "VENC-FRAMERATE" frameRate)
  else match rtspServer0 with
    | some rtsp => do
      let isConnected ← rtsp.toElement.getAttr "isConnected" false
      -- an RTSP client that is connected pins the rate to the minimum
      if isConnected then
        pure (elem.setAttr "VENC-FRAMERATE" minFrameRate)
      else
        pure (elem.setAttr "VENC-FRAMERATE" frameRate)
    | none => pure (elem.setAttr "VENC-FRAMERATE" frameRate)

/-! ### Reports -/

/-- A message of a client, and the RTSP server at that time. -/
structure Report where
  cli : CfWebsocket
  json : CfJson
  rtspServer0 : Option LiveRtspServer

/-- The message names a pending count. -/
def Report.IsPending (r : Report) : Prop := ∃ n, r.json.getInt "pendingH264pkg" = .ok n

/-- The server and the element after a report. -/
def reportStep (isVps : Bool) (server : WebSocketServerImplcFwk) (elem : Element) (r : Report) :
    Checked (WebSocketServerImplcFwk × Element) := do
  let (server, called) ← server.onCliRead r.cli r.json
  match called with
  | some max => do
    let elem ← wsCliMaxPendingChangedHandler isVps r.rtspServer0 elem max
    pure (server, elem)
  | none => pure (server, elem)

/-- The server and the element after a run of reports, and the maximum pending count after each of
them. -/
def reportRun (isVps : Bool) (server : WebSocketServerImplcFwk) (elem : Element) :
    List Report → Checked ((WebSocketServerImplcFwk × Element) × List UInt32)
  | [] => pure ((server, elem), [])
  | r :: reports => do
    let (server, elem) ← reportStep isVps server elem r
    let max ← server.maxPending
    let (final, maxima) ← reportRun isVps server elem reports
    pure (final, max :: maxima)

/-- How many of the maxima differ from the one before, the first from `last`. -/
def changes (last : UInt32) : List UInt32 → ℕ
  | [] => 0
  | max :: maxima => (if max = last then 0 else 1) + changes max maxima

end Mvr.Player
