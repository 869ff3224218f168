import Mvr.CText.Basic
import Mvr.Checked.Basic

/-!
# Property trees

`PTree` is `boost::property_tree::ptree`: a node has a text of its own and a list of children in
order, whose keys may repeat.  A path of one key names the first child with that key, which is all
the operations below use; `put` and `putChild` overwrite that child or append a new one.

`get<int>` goes through the stream translator: the text must be one number, inside `int`, with
nothing but white space around it.
-/

namespace Mvr

/-- A node: its own text and its children. -/
inductive PTree where
  | node (data : String) (children : List (String × PTree))

namespace PTree

/-- The text of the node itself. -/
def data : PTree → String
  | node s _ => s

/-- The children in order. -/
def children : PTree → List (String × PTree)
  | node _ cs => cs

/-- A default-constructed tree. -/
def empty : PTree := node "" []

/-- A node without children. -/
def leaf (s : String) : PTree := node s []

/-- The number of children with a key. -/
def count (t : PTree) (key : String) : ℕ := t.children.countP fun c => c.1 = key

/-- The first child with a key. -/
def find? (t : PTree) (key : String) : Option PTree :=
  (t.children.find? fun c => c.1 = key).map Prod.snd

/-- `get_child`, which throws when there is no such child. -/
def getChild (t : PTree) (key : String) : Checked PTree :=
  match t.find? key with
  | some c => .ok c
  | none => .error (.uncaught "ptree_bad_path")

/-- `get<std::string>` with a default. -/
def getString (t : PTree) (key default : String) : String :=
  match t.find? key with
  | some c => c.data
  | none => default

/-- The stream translator for `int`: the whole text is one number. -/
def translateInt (s : String) : Option Int32 :=
  match CText.extractInt? s with
  | some (n, rest) => if rest.all CText.isSpace then some n else none
  | none => none

/-- `get<int>` with a default. -/
def getInt (t : PTree) (key : String) (default : Int32) : Int32 :=
  match t.find? key with
  | some c => (translateInt c.data).getD default
  | none => default

/-- The children after the first one with the key is overwritten, or a new one is appended. -/
def upsert (key : String) (c : PTree) : List (String × PTree) → List (String × PTree)
  | [] => [(key, c)]
  | (k, t) :: rest => if k = key then (k, c) :: rest else (k, t) :: upsert key c rest

/-- `put_child`. -/
def putChild (t : PTree) (key : String) (c : PTree) : PTree :=
  node t.data (upsert key c t.children)

/-- `put` of a text: an existing child keeps its own children. -/
def put (t : PTree) (key s : String) : PTree :=
  match t.find? key with
  | some c => t.putChild key (node s c.children)
  | none => t.putChild key (leaf s)

/-- `put` of an `int`. -/
def putInt (t : PTree) (key : String) (n : Int32) : PTree :=
  t.put key (CText.formatInt n.toInt)

/-- `push_back`. -/
def pushBack (t : PTree) (key : String) (c : PTree) : PTree :=
  node t.data (t.children ++ [(key, c)])

end PTree

end Mvr
