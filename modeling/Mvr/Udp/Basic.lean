import Mvr.Checked.Basic
import Mvr.Lines.Basic

/-!
# Datagrams

`sendto` hands a payload of at most `maxPayload` bytes to the network as a whole, or fails.
`recvfrom` puts a payload at the start of a buffer; the part that does not fit is lost, and the rest
of the buffer keeps its bytes.  `cString` is the text a buffer holds for a function that takes a
pointer to a string: the bytes before the first zero, and a fault if there is none.

A text that travels with its final zero is read back if it fits into the buffer of the receiver
(`cString_recvfrom`), and runs over its end otherwise (`cString_recvfrom_of_lt`).

The network is the list of all datagrams it was ever handed.  Any of them may be received at any
time and any number of times, or never: datagrams are lost, duplicated and reordered, but not
altered.
-/

namespace Mvr.Udp

/-- The longest payload of a datagram. -/
def maxPayload : ℕ := 65507

/-- What `sendto` may return for a payload of `n` bytes. -/
abbrev SendtoResult (n : ℕ) := {res : ℤ // res = -1 ∨ res = n ∧ n ≤ maxPayload}

/-- A datagram on its way. -/
structure Datagram (Addr : Type) where
  source : Addr
  dest : Addr
  payload : List UInt8

variable {size : ℕ}

/-- The buffer after `recvfrom`. -/
def recvfrom (buf : Vector UInt8 size) (payload : List UInt8) : Vector UInt8 size :=
  ⟨(payload.take size ++ buf.toList.drop payload.length).toArray, by simp; omega⟩

/-- The number `recvfrom` returns. -/
def recvNum (size : ℕ) (payload : List UInt8) : ℕ := min payload.length size

/-- The string at the start of a buffer. -/
def cString (buf : Vector UInt8 size) : Checked (List UInt8) :=
  if 0 ∈ buf.toList then .ok (buf.toList.takeWhile (· ≠ 0)) else .error (.outOfBounds size)

theorem toList_recvfrom (buf : Vector UInt8 size) (payload : List UInt8) :
    (recvfrom buf payload).toList = payload.take size ++ buf.toList.drop payload.length := rfl

/-- A text that fits comes with its final zero. -/
theorem cString_recvfrom {text : List UInt8} (htext : 0 ∉ text) (hsize : text.length + 1 ≤ size)
    (buf : Vector UInt8 size) : cString (recvfrom buf (text ++ [0])) = .ok text := by
  have htake : (text ++ [0]).take size = text ++ [0] :=
    List.take_of_length_le (by simpa using hsize)
  unfold cString
  rw [toList_recvfrom, htake, if_pos (by simp), List.append_assoc, List.singleton_append,
    Lines.takeWhile_append_cons htext]

/-- Of a text that does not fit, the final zero is lost. -/
theorem cString_recvfrom_of_lt {text : List UInt8} (htext : 0 ∉ text)
    (hsize : size < text.length + 1) (buf : Vector UInt8 size) :
    cString (recvfrom buf (text ++ [0])) = .error (.outOfBounds size) := by
  have htake : (text ++ [0]).take size = text.take size :=
    List.take_append_of_le_length (by omega)
  have hdrop : buf.toList.drop (text ++ [0]).length = [] :=
    List.drop_eq_nil_of_le (by simp; omega)
  unfold cString
  rw [toList_recvfrom, htake, hdrop, List.append_nil,
    if_neg fun h => htext (List.mem_of_mem_take h)]

/-- A payload with a zero in it is read up to there, whatever the buffer held. -/
theorem cString_recvfrom_of_mem {payload : List UInt8} (hzero : 0 ∈ payload)
    (hsize : payload.length ≤ size) (buf : Vector UInt8 size) :
    cString (recvfrom buf payload) = .ok (payload.takeWhile (· ≠ 0)) := by
  have htake : payload.take size = payload := List.take_of_length_le hsize
  have hstop : (payload.takeWhile (· ≠ 0)).length ≠ payload.length := by
    intro hlen
    have hself := List.takeWhile_eq_self_iff.mp
      ((List.takeWhile_prefix _).eq_of_length hlen) 0 hzero
    simp at hself
  unfold cString
  rw [toList_recvfrom, htake, if_pos (List.mem_append_left _ hzero), List.takeWhile_append,
    if_neg hstop]

/-- A payload without a zero runs on into what the buffer held. -/
theorem cString_recvfrom_of_notMem {payload : List UInt8} (hzero : 0 ∉ payload)
    {buf : Vector UInt8 size} (hbuf : 0 ∉ buf.toList) :
    cString (recvfrom buf payload) = .error (.outOfBounds size) := by
  unfold cString
  rw [toList_recvfrom, if_neg]
  rw [List.mem_append, not_or]
  exact ⟨fun h => hzero (List.mem_of_mem_take h), fun h => hbuf (List.mem_of_mem_drop h)⟩

/-- Behind a datagram stands the rest of a longer one that was received before it. -/
theorem recvfrom_recvfrom {payload before : List UInt8} (hle : payload.length ≤ before.length)
    (hsize : before.length ≤ size) (buf : Vector UInt8 size) :
    recvfrom (recvfrom buf before) payload =
      recvfrom buf (payload ++ before.drop payload.length) := by
  have hlen : (payload ++ before.drop payload.length).length = before.length := by
    rw [List.length_append, List.length_drop]
    omega
  apply Vector.toList_inj.mp
  rw [toList_recvfrom, toList_recvfrom, toList_recvfrom, List.take_of_length_le hsize,
    List.take_of_length_le (hle.trans hsize), List.take_of_length_le (hlen.trans_le hsize), hlen,
    List.drop_append_of_le_length hle, List.append_assoc]

/-! ### The network -/

variable {Addr : Type}

/-- The network after a party has handed it a datagram, or none. -/
def transmit (net : List (Datagram Addr)) (source : Addr) :
    Option (Addr × List UInt8) → List (Datagram Addr)
  | none => net
  | some (dest, payload) => net ++ [⟨source, dest, payload⟩]

/-- What a party may receive: nothing, or a datagram that is meant for it. -/
def CanReceive (net : List (Datagram Addr)) (dest : Addr) : Option (Addr × List UInt8) → Prop
  | none => True
  | some (source, payload) => ⟨source, dest, payload⟩ ∈ net

theorem mem_transmit {net : List (Datagram Addr)} {source : Addr}
    {datagram : Option (Addr × List UInt8)} {d : Datagram Addr}
    (h : d ∈ transmit net source datagram) :
    d ∈ net ∨ d.source = source ∧ datagram = some (d.dest, d.payload) := by
  cases datagram with
  | none => exact Or.inl h
  | some p =>
    rcases List.mem_append.mp h with hold | hnew
    · exact Or.inl hold
    · rw [List.mem_singleton] at hnew
      subst hnew
      exact Or.inr ⟨rfl, rfl⟩

end Mvr.Udp
