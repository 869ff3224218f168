import Mathlib.Algebra.Group.Int.Defs
import Mathlib.Data.Int.Basic
import Mathlib.Tactic.Common

/-!
# Numbers as text

The conversions between `int` values and text that the C and C++ libraries offer: insertion into a
stream (`formatInt`), extraction of an `int`, a `bool` or a word from a stream (`extractInt`,
`extractBool`, `extractWord`) and `atoi`.

All of them read a number the same way, which `scanInt` does once: leading white space is skipped,
a sign is optional, and the digits that follow are taken as long as there are any.
-/

namespace Mvr.CText

/-- `isspace` in the default locale. -/
def isSpace (c : Char) : Bool :=
  c = ' ' || c = '\t' || c = '\n' || c = '\x0b' || c = '\x0c' || c = '\x0d'

/-- The natural number at the start of the text, with the text after it. -/
def scanNat (cs : List Char) : Option (ℕ × List Char) :=
  match cs.takeWhile Char.isDigit with
  | [] => none
  | ds => some (Nat.ofDigitChars 10 ds 0, cs.dropWhile Char.isDigit)

/-- The integer at the start of the text, with the text after it. -/
def scanInt (cs : List Char) : Option (ℤ × List Char) :=
  match cs.dropWhile isSpace with
  | '-' :: ds => (scanNat ds).map fun p => (-(p.1 : ℤ), p.2)
  | '+' :: ds => (scanNat ds).map fun p => ((p.1 : ℤ), p.2)
  | ds => (scanNat ds).map fun p => ((p.1 : ℤ), p.2)

/-- The decimal digits of a number, with its sign. -/
def formatDigits (n : ℤ) : List Char :=
  if n < 0 then '-' :: Nat.toDigits 10 n.natAbs else Nat.toDigits 10 n.natAbs

/-- `stream << n`. -/
def formatInt (n : ℤ) : String := String.ofList (formatDigits n)

/-- `stream << b`, with `boolalpha` off. -/
def formatBool (b : Bool) : String := if b then "1" else "0"

/-- The outcome of `stream >> n`: the value stored in `n` and the text left in the stream, `none`
when the extraction fails.  A number outside `int` is a failure too. -/
def extractInt? (s : String) : Option (Int32 × List Char) :=
  match scanInt s.toList with
  | some (n, rest) => if -2 ^ 31 ≤ n ∧ n < 2 ^ 31 then some (Int32.ofInt n, rest) else none
  | none => none

/-- The value `stream >> n` leaves in `n`, whether the extraction fails or not: 0 for a text that
is not a number, the nearest bound for a number outside `int`.  A stream with nothing but white
space does not touch `n` at all, which is `none`. -/
def extractInt (s : String) : Option Int32 :=
  match scanInt s.toList with
  | some (n, _) => some (Int32.ofIntClamp n)
  | none => if s.toList.all isSpace then none else some 0

/-- The value `stream >> b` leaves in `b`, with `boolalpha` off: any number other than 0 is
`true`.  `none` as for `extractInt`. -/
def extractBool (s : String) : Option Bool :=
  match scanInt s.toList with
  | some (n, _) => some (n ≠ 0)
  | none => if s.toList.all isSpace then none else some false

/-- The value `stream >> word` leaves in `word`: the first maximal run of characters that are not
white space. -/
def extractWord (s : String) : String :=
  String.ofList ((s.toList.dropWhile isSpace).takeWhile fun c => !isSpace c)

/-- `atoi`: 0 for a text that is not a number; `strtol` stops at the bounds of a 32-bit `long`. -/
def atoi (s : String) : Int32 :=
  match scanInt s.toList with
  | some (n, _) => Int32.ofIntClamp n
  | none => 0

end Mvr.CText
