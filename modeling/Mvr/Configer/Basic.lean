import Mvr.PTree.Basic
import Mathlib.Logic.Function.Basic

/-!
# The configuration file

`Configer` keeps the property tree of one JSON file.  The JSON parser of `boost` is a parameter
(`JsonParser`): `readJson` is `none` when it throws, and `writeJson` is the text it leaves in the
file.  `Files` is the file system, as far as the program looks at it.
-/

namespace Mvr

/-- `boost::property_tree::json_parser`. -/
structure JsonParser where
  /-- The tree of a text, `none` when `read_json` throws. -/
  readJson : String → Option PTree
  /-- The text of a tree. -/
  writeJson : PTree → String

/-- A parser that knows one tree and its text. -/
def JsonParser.ofText (text : String) (t : PTree) : JsonParser where
  readJson s := if s = text then some t else none
  writeJson _ := text

theorem JsonParser.readJson_ofText (text : String) (t t' : PTree) :
    (ofText text t).readJson ((ofText text t).writeJson t') = some t := if_pos rfl

/-- The contents of the files, by name. -/
abbrev Files := String → Option String

/-- A configuration file and its tree. -/
structure Configer where
  mFileName : String
  mPtree : PTree

namespace Configer

/-- The constructor: an unreadable file leaves the tree empty. -/
def new (parser : JsonParser) (files : Files) (fileName : String) : Configer where
  mFileName := fileName
  mPtree := ((files fileName).bind parser.readJson).getD PTree.empty

/-- `json`. -/
def json (conf : Configer) : PTree := conf.mPtree

/-- The object after an assignment through the reference that `json` returns. -/
def setJson (conf : Configer) (t : PTree) : Configer := { conf with mPtree := t }

/-- `save`. -/
def save (conf : Configer) (parser : JsonParser) (files : Files) : Files :=
  Function.update files conf.mFileName (some (parser.writeJson conf.mPtree))

@[simp] theorem json_setJson (conf : Configer) (t : PTree) : (conf.setJson t).json = t := rfl

/-- A saved tree that the parser reads back is the tree of the next start. -/
theorem new_save {parser : JsonParser} (conf : Configer) (files : Files)
    (h : parser.readJson (parser.writeJson conf.mPtree) = some conf.mPtree) :
    new parser (conf.save parser files) conf.mFileName = conf := by
  simp [new, save, h]

end Configer

end Mvr
