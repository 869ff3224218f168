import Mvr.BlockHeap.Basic
import Mvr.CInt.Basic
import Mvr.CText.Basic
import Mvr.CText.Equiv
import Mvr.CfJson.Basic
import Mvr.CfJson.Print
import Mvr.Checked.Basic
import Mvr.Configer.Basic
import Mvr.DecodeWorker.Basic
import Mvr.DecodeWorker.Equiv
import Mvr.Element.Basic
import Mvr.Element.Equiv
import Mvr.Factory.Basic
import Mvr.Factory.Equiv
import Mvr.Factory.InitCalls
import Mvr.Factory.Orphans
import Mvr.Framing.Basic
import Mvr.FwdList.Basic
import Mvr.GridLayout.Basic
import Mvr.Hi3531dv100Lib.Basic
import Mvr.Hi3531dv100Lib.Equiv
import Mvr.JsonCpp.Basic
import Mvr.Ladder.Basic
import Mvr.LastWrite.Basic
import Mvr.Ledger.Basic
import Mvr.Lines.Basic
import Mvr.LiveRtspServer.Basic
import Mvr.LiveRtspServer.Equiv
import Mvr.Lts.Basic
import Mvr.Lts.Simulation
import Mvr.Lts.Transit
import Mvr.LwsMinimal.Basic
import Mvr.LwsMinimal.Delivery
import Mvr.LwsMinimal.Equiv
import Mvr.PTree.Basic
import Mvr.PTree.Equiv
import Mvr.PartialInverse.Basic
import Mvr.Player.EarlyClients
import Mvr.Player.Elements
import Mvr.Player.Equiv.Access
import Mvr.Player.Equiv.Canonical
import Mvr.Player.Equiv.Composer
import Mvr.Player.Equiv.ConfFile
import Mvr.Player.Equiv.EarlyClients
import Mvr.Player.Equiv.Elements
import Mvr.Player.Equiv.Gather
import Mvr.Player.Equiv.Handler
import Mvr.Player.Equiv.Modes
import Mvr.Player.Equiv.PassThrough
import Mvr.Player.Equiv.RateControl
import Mvr.Player.Equiv.RateStep
import Mvr.Player.Equiv.Register
import Mvr.Player.Equiv.Replace
import Mvr.Player.Equiv.Reply
import Mvr.Player.Equiv.SaveLoad
import Mvr.Player.Equiv.Start
import Mvr.Player.Equiv.StartUp
import Mvr.Player.Equiv.Store
import Mvr.Player.Equiv.Stream
import Mvr.Player.Equiv.WsServer
import Mvr.Player.Layout
import Mvr.Player.NovaEncoderInit
import Mvr.Player.RateControl
import Mvr.Player.Register
import Mvr.Player.Request
import Mvr.Player.Start
import Mvr.Player.Stream
import Mvr.Player.WsServer
import Mvr.PtrMap.Basic
import Mvr.Raster.Basic
import Mvr.Raster.Compose
import Mvr.Rect.Basic
import Mvr.Ring.Basic
import Mvr.RtspPipe.Basic
import Mvr.RtspPipe.Equiv
import Mvr.SampleCommVenc.Basic
import Mvr.SampleCommVenc.Equiv
import Mvr.SampleCommVenc.Rate
import Mvr.Sequential.Basic
import Mvr.Ssc339g.Apart
import Mvr.Ssc339g.Basic
import Mvr.Ssc339g.Delivery
import Mvr.Ssc339g.Equiv
import Mvr.Stp.Basic
import Mvr.Stp.Equiv.Basic
import Mvr.Stp.Equiv.Calls
import Mvr.Stp.Equiv.RoundTrip
import Mvr.Stp.Equiv.System
import Mvr.Stp.System
import Mvr.ToString.Basic
import Mvr.ToString.Equiv
import Mvr.Udp.Basic
import Mvr.VEncHi3531DV100.Basic
import Mvr.VEncHi3531DV100.Equiv
import Mvr.Venc.Basic
import Mvr.Venc.Equiv
import Mvr.Vi.Basic
import Mvr.Vi.Equiv
import Mvr.VideoModule.Basic
import Mvr.VideoModule.Equiv
import Mvr.VideoModule.Equiv.Page
import Mvr.VideoModule.Page
import Mvr.Vif.Equiv.Chroma
import Mvr.Vif.Equiv.Coverage
import Mvr.Vif.Equiv.Luma
import Mvr.Vif.Equiv.Rearrange
import Mvr.Vif.Equiv.ReorganizeYuv
import Mvr.Vif.Equiv.WebPara
import Mvr.Vif.Equiv.YuvDataProcess
import Mvr.Vif.ReorganizeYuv
import Mvr.Vif.WebPara
import Mvr.Vif.YuvDataProcess
import Mvr.WebSocketServerImplcFwk.Basic
import Mvr.WebSocketServerImplcFwk.Equiv
import Mvr.WebSocketServerImplcFwk.Pending
import Mvr.WebSocketServerImplcFwk.Reports
import Mvr.WebsocketServerImplQt.Basic
import Mvr.WebsocketServerImplQt.Equiv
import Mvr.ZSettings.Basic
import Mvr.ZSettings.Equiv
