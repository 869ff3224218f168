import Mvr.Factory.Basic

/-!
# The elements of the program

The static initialisers of the program register its two factories and its five kinds of elements, in
the order in which the linker has put their files.  The factory `SSC339G` registers only if the
vendor's library starts, which is the one registration that can fail.  `NovaEncoderInit` asks both
factories for the elements of a channel.
-/

namespace Mvr.Player

open Factory (Statics StaticInit getFactoryInstanceByName createElementByName)

/-- What the calls of `ST_Sys_Init` return. -/
structure MiSys where
  miSysInit : Int32
  miSysGetVersion : Int32
  miSysGetCurPts : Int32
  miSysInitPtsBase : Int32
  miSysSyncPts : Int32

/-- `ST_Sys_Init`, whose result is that of the `init` of the factory. -/
def stSysInit (mi : MiSys) : Int32 :=
  if mi.miSysInit ≠ 0 then mi.miSysInit
  else if mi.miSysGetVersion ≠ 0 then mi.miSysGetVersion
  else if mi.miSysGetCurPts ≠ 0 then mi.miSysGetCurPts
  else if mi.miSysInitPtsBase ≠ 0 then mi.miSysInitPtsBase
  else if mi.miSysSyncPts ≠ 0 then mi.miSysSyncPts
  else 0

/-- The class `SSC339GFactory`. -/
def ssc339gFactory : ℕ := 0

/-- The class `FactoryCommon`. -/
def factoryCommon : ℕ := 1

/-- `vif::createInstance`. -/
def vifCreateInstance : ℕ := 0

/-- `Vpe::createInstance`. -/
def vpeCreateInstance : ℕ := 1

/-- `VENCSSC339G::createInstance`. -/
def vencCreateInstance : ℕ := 2

/-- `LiveRTSPServer::createInstance`. -/
def liveRtspServerCreateInstance : ℕ := 3

/-- `WebsocketServer::createInstance`. -/
def websocketServerCreateInstance : ℕ := 4

/-- The static initialisers, in the order of the make file. -/
def staticInits (mi : MiSys) : List StaticInit :=
  [.registerFactory ⟨"common", some 0, factoryCommon⟩,
    .registerElement [⟨"common", "ws-server", some 0, websocketServerCreateInstance⟩],
    .registerElement [⟨"common", "rtsp-server", some 0, liveRtspServerCreateInstance⟩],
    .registerFactory ⟨"SSC339G", some (stSysInit mi), ssc339gFactory⟩,
    .registerElement [⟨"SSC339G", "vif", some 0, vifCreateInstance⟩],
    .registerElement [⟨"SSC339G", "vpe", some 0, vpeCreateInstance⟩],
    .registerElement [⟨"SSC339G", "venc", some 0, vencCreateInstance⟩]]

/-- The functions that created the elements of a channel, `none` for a null pointer. -/
structure Created where
  mElemHead : Option ℕ
  elemVps : Option ℕ
  elemVenc : Option ℕ
  rtspServer : Option ℕ
  deriving DecidableEq

/-- The part of `NovaEncoderInit` that creates the elements, the same for both channels. -/
def createElements (fuel : ℕ) (s : Statics) : Checked (Statics × Created) :=
  getFactoryInstanceByName (Factory.getInstance fuel) s "SSC339G" >>= fun r =>
  getFactoryInstanceByName (Factory.getInstance fuel) r.1 "common" >>= fun r' =>
  match r.2, r'.2 with
  | some factory, some factoryCommon =>
    createElementByName r'.1 factory "vif" >>= fun vif =>
    createElementByName vif.1 factory "vpe" >>= fun vpe =>
    createElementByName vpe.1 factory "venc" >>= fun venc =>
    createElementByName venc.1 factoryCommon "rtsp-server" >>= fun rtsp =>
    pure (rtsp.1, ⟨vif.2, vpe.2, venc.2, rtsp.2⟩)
  | _, _ => .error (.uncaught "cf_assert")

/-- The creation of both channels. -/
def createChannels (fuel : ℕ) (s : Statics) : Checked (Statics × Created × Created) :=
  createElements fuel s >>= fun r => createElements fuel r.1 >>= fun r' =>
    pure (r'.1, r.2, r'.2)

end Mvr.Player
