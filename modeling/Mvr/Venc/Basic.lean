import Mvr.Checked.Basic
import Mvr.Ledger.Basic
import Mvr.Lts.Basic

/-!
# The encoder loop

`VENCSSC339G::getH264data` asks the encoder for a packet, copies it into a buffer from the heap,
hands the buffer to the callback, releases the packet's stream and frees the buffer.  An iteration
is a function of what the encoder and the heap answer (`Outcomes`); `getH264flag` only decides how
many iterations there are.  `data` lives across the iterations and is `none` until it is written.
-/

namespace Mvr.Venc

/-- An address of the heap. -/
abbrev Ptr := ℕ

/-- The calls of the loop that concern a packet or a buffer. -/
inductive Call where
  /-- A successful `MI_VENC_GetStream`, with the bytes of the packet. -/
  | getStream (stStream : ℕ) (pack : List UInt8)
  | malloc (data : Ptr)
  /-- The callback, with the bytes of the buffer. -/
  | getData (data : Ptr) (bytes : List UInt8)
  | releaseStream (stStream : ℕ)
  | free (data : Option Ptr)
  deriving DecidableEq, Repr

/-- What the calls of one iteration answer. -/
structure Outcomes where
  query : Int32
  u32CurPacks : UInt32
  getStream : Int32
  stStream : ℕ
  pack : List UInt8
  /-- `none` for a null pointer. -/
  malloc : Option Ptr
  releaseStream : Int32

/-- The variable `data`, and the calls made so far. -/
structure Loop where
  data : Option Ptr
  calls : List Call
  deriving DecidableEq, Repr

namespace Loop

/-- The state before the loop. -/
def init : Loop := { data := none, calls := [] }

/-- A call is made. -/
def call (s : Loop) (c : Call) : Loop := { s with calls := s.calls ++ [c] }

/-- The part of the body that handles a fetched packet. -/
def packet (s : Loop) (o : Outcomes) : Checked Loop := do
  let s := s.call (.getStream o.stStream o.pack)
  match o.malloc with
  -- `memcpy` to a null pointer
  | none => .error .badPointer
  | some data =>
    let s := { data := some data, calls := s.calls : Loop }.call (.malloc data)
    let s := s.call (.getData data o.pack)
    -- a failure of the release is only reported
    pure (s.call (.releaseStream o.stStream))

/-- The body of the loop. -/
def body (s : Loop) (o : Outcomes) : Checked Loop := do
  if o.query ≠ 0 ∨ o.u32CurPacks = 0 then
    pure s
  else
    let s ← if o.getStream = 0 then s.packet o else pure s
    pure (s.call (.free s.data))

/-- An iteration of the loop that comes to its end. -/
def Step (s : Loop) (o : Outcomes) (s' : Loop) : Prop := s.body o = .ok s'

end Loop

/-- What the loop borrows: the stream of a packet, and a buffer of the heap. -/
inductive Resource where
  | stream (stStream : ℕ)
  | buffer (data : Option Ptr)
  deriving DecidableEq, Repr

/-- What a call does to the streams and buffers. -/
def Call.events : Call → List (Ledger.Event Resource)
  | getStream stStream _ => [.acquire (.stream stStream)]
  | malloc data => [.acquire (.buffer (some data))]
  | getData data _ => [.use (.buffer (some data))]
  | releaseStream stStream => [.release (.stream stStream)]
  | free data => [.release (.buffer data)]

/-- The packet a call fetches. -/
def Call.fetched : Call → Option (List UInt8)
  | getStream _ pack => some pack
  | _ => none

/-- The packet a call hands to the callback. -/
def Call.handed : Call → Option (List UInt8)
  | getData _ bytes => some bytes
  | _ => none

/-- The events of a run. -/
def Loop.events (s : Loop) : List (Ledger.Event Resource) := s.calls.flatMap Call.events

/-- Every buffer is freed and every stream released exactly once, nothing else is, and the packets
that were fetched are those handed to the callback, in their order. -/
structure Loop.Owned (s : Loop) : Prop where
  balanced : Ledger.Balanced s.events
  handed : s.calls.filterMap Call.handed = s.calls.filterMap Call.fetched

/-- `MI_VENC_GetStream` does not fail in the iteration. -/
def Outcomes.GetStreamSucceeds (o : Outcomes) : Prop :=
  o.query = 0 ∧ o.u32CurPacks ≠ 0 → o.getStream = 0

end Mvr.Venc
