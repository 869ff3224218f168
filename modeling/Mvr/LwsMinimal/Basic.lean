import Mvr.FwdList.Basic
import Mvr.Ledger.Basic
import Mvr.Lts.Basic

/-!
# The protocol `lws-minimal`

`HttpServer` serves one websocket protocol, `callback_minimal`: what a client sends is kept as the
one pending message and is to be written to every open session.  The sessions' `pss` are on a
forward list of the virtual host; a session remembers the number of the message it sent last, and
`LWS_CALLBACK_RECEIVE` asks for a `LWS_CALLBACK_SERVER_WRITEABLE` of every session on the list.

`System.Step` is a call of the callback by `lws_service`.  The library allocates the `pss` of a
session, zeroed, before `LWS_CALLBACK_ESTABLISHED`, frees it after `LWS_CALLBACK_CLOSED`, and closes
a session whose callback does not return 0.  Which sessions become writeable, in which order, and
whether they were asked for, is not up to the callback.
-/

namespace Mvr.LwsMinimal

/-- A connection. -/
abbrev Lws := ℕ

/-- The address of a session's data. -/
abbrev PssPtr := ℕ

/-- An address of the heap. -/
abbrev Ptr := ℕ

/-- `per_session_data__minimal`. -/
structure Pss where
  pssList : Option PssPtr
  wsi : Option Lws
  last : Int32
  deriving DecidableEq

/-- The data of a new session: `lws` clears it. -/
def Pss.zero : Pss := ⟨none, none, 0⟩

/-- The member that links the sessions. -/
def pssList : FwdList.Member PssPtr Pss where
  get := Pss.pssList
  set next pss := { pss with pssList := next }
  get_set _ _ := rfl

/-- A block of the heap, with the bytes after `LWS_PRE`. -/
structure Payload where
  ptr : Ptr
  text : List UInt8
  deriving DecidableEq

/-- `msg`. -/
structure Msg where
  /-- `none` for a null pointer. -/
  payload : Option Payload
  len : ℕ
  deriving DecidableEq

/-- `per_vhost_data__minimal` with the sessions it points to: `head` is its `pss_list`. -/
structure Vhd extends FwdList.Cells PssPtr Pss where
  amsg : Msg
  current : Int32

/-- The data of a new virtual host. -/
def Vhd.zero : Vhd where
  head := none
  heap _ := none
  amsg := ⟨none, 0⟩
  current := 0

/-- The calls the callback makes. -/
inductive Call where
  | onWritable (wsi : Option Lws)
  /-- `lws_write`, with the block it reads and the text it finds there. -/
  | write (wsi : Lws) (payload : Ptr) (text : List UInt8)
  /-- A successful `malloc`. -/
  | malloc (payload : Ptr)
  | free (payload : Ptr)
  deriving DecidableEq

/-- What the library answers. -/
structure Answers where
  lwsWrite : Int32
  /-- `none` for a null pointer. -/
  malloc : Option Ptr

/-- The reasons the callback deals with. -/
inductive Reason where
  | established
  | closed
  | serverWriteable
  | receive
  | other

/-- `__minimal_destroy_message`. -/
def minimalDestroyMessage (msg : Msg) : Msg × List Call :=
  (⟨none, 0⟩, msg.payload.toList.map fun payload => .free payload.ptr)

/-- `LWS_CALLBACK_ESTABLISHED`. -/
def established (vhd : Vhd) (wsi : Lws) (pss : PssPtr) : Checked Vhd := do
  let cells ← FwdList.insert pssList pss vhd.toCells
  let user ← cells.deref pss
  pure { vhd with toCells := cells.write pss { user with wsi := some wsi, last := vhd.current } }

/-- `LWS_CALLBACK_CLOSED`. -/
def closed (fuel : ℕ) (vhd : Vhd) (pss : PssPtr) : Checked Vhd := do
  let cells ← FwdList.remove pssList fuel pss vhd.toCells
  pure { vhd with toCells := cells }

/-- `LWS_CALLBACK_SERVER_WRITEABLE`. -/
def serverWriteable (vhd : Vhd) (wsi : Lws) (pss : PssPtr) (m : Int32) :
    Checked (Vhd × Int32 × List Call) :=
  match vhd.amsg.payload with
  | none => pure (vhd, 0, [])
  | some payload => do
    let user ← vhd.deref pss
    if user.last = vhd.current then
      pure (vhd, 0, [])
    else
      let write := Call.write wsi payload.ptr (payload.text.take vhd.amsg.len)
      if m < Int32.ofNat vhd.amsg.len then
        pure (vhd, -1, [write])
      else
        pure ({ vhd with toCells := vhd.write pss { user with last := vhd.current } }, 0, [write])

/-- The loop of `LWS_CALLBACK_RECEIVE` over the sessions. -/
def wakeAll (fuel : ℕ) (vhd : Vhd) : Checked (List Call) :=
  FwdList.foreach pssList fuel vhd.toCells (fun calls pss => do
    let user ← vhd.deref pss
    pure (calls ++ [.onWritable user.wsi])) []

/-- `LWS_CALLBACK_RECEIVE`. -/
def receive (fuel : ℕ) (vhd : Vhd) (text : List UInt8) (malloc : Option Ptr) :
    Checked (Vhd × List Call) := do
  let (amsg, freed) :=
    if vhd.amsg.payload.isSome then minimalDestroyMessage vhd.amsg else (vhd.amsg, [])
  let vhd := { vhd with amsg := { amsg with len := text.length } }
  match malloc with
  -- the message is dropped
  | none => pure (vhd, freed)
  | some payload =>
    let vhd := { vhd with
      amsg := ⟨some ⟨payload, text⟩, text.length⟩
      current := vhd.current + 1 }
    let calls ← wakeAll fuel vhd
    pure (vhd, freed ++ [.malloc payload] ++ calls)

/-- `callback_minimal`, with its result and the calls it makes. -/
def callbackMinimal (fuel : ℕ) (vhd : Vhd) (wsi : Lws) (reason : Reason) (user : PssPtr)
    (text : List UInt8) (ans : Answers) : Checked (Vhd × Int32 × List Call) :=
  match reason with
  | .established => do
    let vhd ← established vhd wsi user
    pure (vhd, 0, [])
  | .closed => do
    let vhd ← closed fuel vhd user
    pure (vhd, 0, [])
  | .serverWriteable => serverWriteable vhd wsi user ans.lwsWrite
  | .receive => do
    let (vhd, calls) ← receive fuel vhd text ans.malloc
    pure (vhd, 0, calls)
  | .other => pure (vhd, 0, [])

/-! ### The sessions of a server -/

/-- A virtual host and what the library knows of its sessions. -/
structure System where
  vhd : Vhd
  /-- The open sessions, the newest first. -/
  sessions : List (PssPtr × Lws)
  /-- The connections `lws_callback_on_writable` was called for since they were last writeable. -/
  requested : Lws → Bool

namespace System

/-- After `LWS_CALLBACK_PROTOCOL_INIT`. -/
def init : System where
  vhd := Vhd.zero
  sessions := []
  requested _ := false

/-- A call of the callback.  The fuel is for the sessions that are open. -/
def callback (s : System) (wsi : Lws) (reason : Reason) (user : PssPtr) (text : List UInt8)
    (ans : Answers) : Checked (Vhd × Int32 × List Call) :=
  callbackMinimal (s.sessions.length + 1) s.vhd wsi reason user text ans

/-- The library allocates the data of a session. -/
def alloc (s : System) (user : PssPtr) : System :=
  { s with vhd.heap := Function.update s.vhd.heap user (some Pss.zero) }

/-- The library frees the data of a session. -/
def dealloc (s : System) (p : PssPtr × Lws) : System where
  vhd := { s.vhd with heap := Function.update s.vhd.heap p.1 none }
  sessions := s.sessions.erase p
  requested := s.requested

/-- What happens to a server. -/
inductive Label where
  | established (user : PssPtr) (wsi : Lws)
  | closed (user : PssPtr) (wsi : Lws)
  /-- A writeable session, and whether the callback let it live. -/
  | serverWriteable (user : PssPtr) (wsi : Lws) (alive : Bool) (calls : List Call)
  | receive (text : List UInt8) (calls : List Call)

/-- The calls of the callback. -/
inductive Step : System → Label → System → Prop
  | established {s : System} {user : PssPtr} {wsi : Lws} {text : List UInt8} {ans : Answers}
      {vhd : Vhd} {calls : List Call} (huser : s.vhd.heap user = none)
      (hwsi : wsi ∉ s.sessions.map Prod.snd)
      (h : (s.alloc user).callback wsi .established user text ans = .ok (vhd, 0, calls)) :
      Step s (.established user wsi)
        ⟨vhd, (user, wsi) :: s.sessions, Function.update s.requested wsi false⟩
  | closed {s : System} {user : PssPtr} {wsi : Lws} {text : List UInt8} {ans : Answers}
      {vhd : Vhd} {calls : List Call} (hopen : (user, wsi) ∈ s.sessions)
      (h : s.callback wsi .closed user text ans = .ok (vhd, 0, calls)) :
      Step s (.closed user wsi) (dealloc { s with vhd } (user, wsi))
  | serverWriteable {s : System} {user : PssPtr} {wsi : Lws} {text : List UInt8} {ans : Answers}
      {vhd : Vhd} {calls : List Call} (hopen : (user, wsi) ∈ s.sessions)
      (h : s.callback wsi .serverWriteable user text ans = .ok (vhd, 0, calls)) :
      Step s (.serverWriteable user wsi true calls)
        { s with vhd, requested := Function.update s.requested wsi false }
  /-- The callback gives the session up, and the library closes it. -/
  | drop {s : System} {user : PssPtr} {wsi : Lws} {text : List UInt8} {ans : Answers}
      {vhd vhd' : Vhd} {res : Int32} {calls calls' : List Call} (hopen : (user, wsi) ∈ s.sessions)
      (h : s.callback wsi .serverWriteable user text ans = .ok (vhd, res, calls)) (hres : res ≠ 0)
      (hclosed : callback { s with vhd } wsi .closed user text ans = .ok (vhd', 0, calls')) :
      Step s (.serverWriteable user wsi false calls) (dealloc { s with vhd := vhd' } (user, wsi))
  | receive {s : System} {user : PssPtr} {wsi : Lws} {text : List UInt8} {ans : Answers}
      {vhd : Vhd} {calls : List Call} (hopen : (user, wsi) ∈ s.sessions)
      (h : s.callback wsi .receive user text ans = .ok (vhd, 0, calls)) :
      Step s (.receive text calls)
        { s with vhd, requested := fun w => s.requested w || Call.onWritable (some w) ∈ calls }

end System

end Mvr.LwsMinimal
