import Mvr.Checked.Basic

/-!
# JSON values of `cf_json`

`CfJson` is the value `cf_json_load` returns and `cf_json_print` prints.  The accessors return
what the value holds under a name or at a position.  Names are compared without regard to case, and
the first member that has the name counts, as in `cJSON_GetObjectItem` of `libcFWK.a`.  Asked for
something the value does not hold the accessors are `Fault.unspecified` here.
-/

namespace Mvr

/-- A JSON value; `other` stands for the kinds no message uses. -/
inductive CfJson where
  | int (n : Int32)
  | string (s : String)
  | array (items : List CfJson)
  | object (members : List (String × CfJson))
  | other

namespace CfJson

/-- `tolower` on every character of a name. -/
def lowerName (name : String) : List Char := name.toList.map Char.toLower

/-- `cf_json_get_item`: the first member with a name, `none` for a null pointer. -/
def getItem (json : CfJson) (name : String) : Option CfJson :=
  match json with
  | object members => (members.find? fun m => lowerName m.1 = lowerName name).map Prod.snd
  | _ => none

theorem getItem_cons_of_eq {m name : String} (v : CfJson) (members : List (String × CfJson))
    (h : lowerName m = lowerName name) : (object ((m, v) :: members)).getItem name = some v := by
  unfold getItem
  dsimp only
  rw [List.find?_cons_of_pos (by simpa using h), Option.map_some]

theorem getItem_cons_of_ne {m name : String} (v : CfJson) (members : List (String × CfJson))
    (h : lowerName m ≠ lowerName name) :
    (object ((m, v) :: members)).getItem name = (object members).getItem name := by
  unfold getItem
  dsimp only
  rw [List.find?_cons_of_neg (by simpa using h)]

/-- `cf_json_contains`. -/
def contains (json : CfJson) (name : String) : Bool := (json.getItem name).isSome

/-- `cf_json_get_int`. -/
def getInt (json : CfJson) (name : String) : Checked Int32 :=
  match json.getItem name with
  | some (int n) => .ok n
  | _ => .error .unspecified

theorem getInt_cons_of_eq {m name : String} (n : Int32) (members : List (String × CfJson))
    (h : lowerName m = lowerName name) :
    (object ((m, int n) :: members)).getInt name = .ok n := by
  unfold getInt
  rw [getItem_cons_of_eq _ _ h]

theorem getInt_cons_of_ne {m name : String} (v : CfJson) (members : List (String × CfJson))
    (h : lowerName m ≠ lowerName name) :
    (object ((m, v) :: members)).getInt name = (object members).getInt name := by
  unfold getInt
  rw [getItem_cons_of_ne _ _ h]

/-- `cf_json_get_string`. -/
def getString (json : CfJson) (name : String) : Checked String :=
  match json.getItem name with
  | some (string s) => .ok s
  | _ => .error .unspecified

/-- `cf_json_get_array_size`. -/
def getArraySize : CfJson → Checked ℕ
  | array items => .ok items.length
  | _ => .error .unspecified

/-- `cf_json_get_item_from_array`. -/
def getItemFromArray (json : CfJson) (which : ℕ) : Checked CfJson :=
  match json with
  | array items => match items[which]? with
    | some item => .ok item
    | none => .error .unspecified
  | _ => .error .unspecified

/-- A pointer the program passes on without a test: null is left to the library. -/
def ofPtr : Option CfJson → Checked CfJson
  | some json => .ok json
  | none => .error .unspecified

theorem contains_of_getInt {json : CfJson} {name : String} {n : Int32}
    (h : json.getInt name = .ok n) : json.contains name = true := by
  unfold getInt at h
  unfold contains
  cases hitem : json.getItem name with
  | none =>
    rw [hitem] at h
    cases h
  | some item => rfl

theorem contains_of_getString {json : CfJson} {name s : String}
    (h : json.getString name = .ok s) : json.contains name = true := by
  unfold getString at h
  unfold contains
  cases hitem : json.getItem name with
  | none =>
    rw [hitem] at h
    cases h
  | some item => rfl

theorem getItemFromArray_array {items : List CfJson} {i : ℕ} (h : i < items.length) :
    (array items).getItemFromArray i = .ok items[i] := by
  simp [getItemFromArray, List.getElem?_eq_getElem h]

end CfJson

end Mvr
