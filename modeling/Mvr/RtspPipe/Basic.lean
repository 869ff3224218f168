import Mvr.Checked.Basic
import Mvr.Framing.Basic

/-!
# The pipe into the RTSP server

`VideoPipeServerMediaSubsession::pushPkg` and `RTSPH264PassiveServer::pushData` write a package into
a pipe, in as many calls of `write` as the pipe asks for.  Both have the same loop, `pushLoop`.
What `write` answers is not up to the program: a `Writer` is any behaviour of the pipe during one
push in which every call of `write` returns.  The constructors leave the writing end blocking, so
that this is up to whoever reads the pipe: where the pipe is full a call waits for them.

Nothing here depends on the contents of the package.  `len` and `off` stay between 0 and the `len`
the function was called with, so that they are integers here.
-/

namespace Mvr.RtspPipe

/-- What `write` may answer when it is asked for `n` bytes: that many bytes were accepted, at least
one and at most `n`, or -1. -/
abbrev WriteResult (n : ℕ) := {writed : ℤ // writed = -1 ∨ 1 ≤ writed ∧ writed ≤ n}

/-- What the calls of `write` answer during one push, if all of them return: the `k`-th call, if
asked for `n` bytes. -/
abbrev Writer := (k n : ℕ) → WriteResult n

/-- The `while` loop before the `k`-th call of `write`, with the bytes that are in the pipe. -/
def pushLoop (write : Writer) (buff : List UInt8) (fuel k : ℕ) (off len : ℤ) (pipe : List UInt8) :
    Checked (List UInt8) :=
  if len > 0 then
    match fuel with
    | 0 => .error .outOfFuel
    | fuel + 1 =>
      let writed := (write k len.toNat).val
      if writed < 0 then
        .ok pipe
      else
        pushLoop write buff fuel (k + 1) (off + writed) (len - writed)
          (pipe ++ (buff.drop off.toNat).take writed.toNat)
  else
    .ok pipe

/-- A package and what `write` answers while it is pushed. -/
structure Push where
  buff : List UInt8
  write : Writer

namespace VideoPipeServerMediaSubsession

/-- `pushPkg`, with the pipe of the subsession before and after. -/
def pushPkg (fuel : ℕ) (mPipe : List UInt8) (p : Push) : Checked (List UInt8) :=
  pushLoop p.write p.buff fuel 0 0 p.buff.length mPipe

end VideoPipeServerMediaSubsession

namespace RTSPH264PassiveServer

/-- `pushData`, with its result and the pipe of the server before and after. -/
def pushData (fuel : ℕ) (mPipe : List UInt8) (p : Push) : Checked (Int32 × List UInt8) := do
  let mPipe ← pushLoop p.write p.buff fuel 0 0 p.buff.length mPipe
  pure (0, mPipe)

end RTSPH264PassiveServer

namespace RTSPOnDemandServer

/-- `pushData`, with its result and the pipe of `mSubSersion` before and after.  `mSubSersion` is
null until `establishAndRunServer` has created the subsession. -/
def pushData (fuel : ℕ) (mSubSersion : Option (List UInt8)) (p : Push) :
    Checked (Int32 × Option (List UInt8)) := do
  match mSubSersion with
  | none => pure (0, none)
  | some mPipe =>
    let mPipe ← VideoPipeServerMediaSubsession.pushPkg fuel mPipe p
    pure (0, some mPipe)

end RTSPOnDemandServer

/-! ### Whole packages -/

/-- Every call of a sequence of pushes into a new pipe returns, and the pipe holds whole packages
after each. -/
def WholePackages (push : List UInt8 → Push → Checked (List UInt8)) (pushes : List Push) : Prop :=
  ∃ stream : ℕ → List UInt8,
    (∀ n ≤ pushes.length, (pushes.take n).foldlM push [] = .ok (stream n)) ∧
      Framing.Whole (pushes.map Push.buff) stream

/-- From the `k`-th call on, `write` fails before it has accepted `n` more bytes. -/
inductive Writer.Fails (write : Writer) : ℕ → ℕ → Prop where
  | now {k n : ℕ} (hn : 0 < n) (h : (write k n).val = -1) : Fails write k n
  | later {k n : ℕ} (hn : 0 < n) (h : 1 ≤ (write k n).val)
      (hrest : Fails write (k + 1) (n - (write k n).val.toNat)) : Fails write k n

/-- `write` accepts the beginning of the package, and fails before the package is complete. -/
def Push.CutShort (p : Push) : Prop :=
  0 < p.buff.length ∧ 1 ≤ (p.write 0 p.buff.length).val ∧
    p.write.Fails 1 (p.buff.length - (p.write 0 p.buff.length).val.toNat)

end Mvr.RtspPipe
