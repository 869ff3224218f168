import Mvr.Lines.Basic
import Mathlib.Tactic.Linarith

/-!
# `ZSettings`

A file of settings with a line `key=value` for each of them.  The constructor reads the file into
`m_cxt` through a buffer of 1024 bytes, `sync` writes `m_cxt` back in the order of its keys.  The
file is its bytes, `none` if it cannot be opened; the booleans, which are kept as the texts `true`
and `false`, and the printing are left out.
-/

namespace Mvr

/-- A `std::string` or a `const char*`. -/
abbrev Bytes := List UInt8

/-- `ZSettings`, without the path of its file. -/
structure ZSettings where
  mCxt : Std.TreeMap Bytes Bytes
  mUpdate : Bool

namespace ZSettings

/-- `'\n'`. -/
def newline : UInt8 := 10

/-- `'='`. -/
def equals : UInt8 := 61

/-- The characters of a line that `buff` has room for. -/
def room : ℕ := 1024 - 1

/-- The body of the loop over the lines. -/
def readLine (cxt : Std.TreeMap Bytes Bytes) (buff : Bytes) : Std.TreeMap Bytes Bytes :=
  let str := buff.takeWhile (· ≠ 0)
  if equals ∈ str then
    let k := str.takeWhile (· ≠ equals)
    let v := str.drop (k.length + 1)
    cxt.insert k v
  else
    cxt

/-- The constructor. -/
def new (file : Option Bytes) : ZSettings where
  mCxt :=
    match file with
    | none => ∅
    | some bytes => (Lines.readLines newline room bytes).foldl readLine ∅
  mUpdate := false

/-- `getString`. -/
def getString (s : ZSettings) (key defaultValue : Bytes) : Bytes :=
  match s.mCxt[key]? with
  | none => defaultValue
  | some value => value

/-- `setValue`. -/
def setValue (s : ZSettings) (key val : Bytes) : ZSettings where
  mCxt := s.mCxt.insert key val
  mUpdate := true

/-- `it->first+"="+it->second`. -/
def line (entry : Bytes × Bytes) : Bytes := entry.1 ++ [equals] ++ entry.2

/-- What `sync` writes. -/
def content (cxt : Std.TreeMap Bytes Bytes) : Bytes := Lines.unlines newline (cxt.toList.map line)

/-- `sync`: the file after it, if the file can be written. -/
def sync (s : ZSettings) (file : Option Bytes) : Option Bytes :=
  if s.mUpdate = false then file else some (content s.mCxt)

/-- The settings after a sequence of `setValue` calls. -/
def setValues (s : ZSettings) (sets : List (Bytes × Bytes)) : ZSettings :=
  sets.foldl (fun s w => s.setValue w.1 w.2) s

end ZSettings

end Mvr
