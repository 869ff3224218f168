import Mvr.Checked.Basic

/-!
# JSON values of `jsoncpp`

`Json::Value` with the operations the program uses.  `operator[]` on a value that is not `const`
creates the member it is asked for, null, if there is none, and turns a null value into an object;
so `update` follows a path of names through a value and creates what is missing on its way.
`assign` is the assignment to a path, `read` the use of a path as a value.

The reader, the writer and the formatting of `double` belong to the library, of which the repository
has the headers and an archive: `Library` is whatever they are.  The exception that the reader
throws for a text nested more deeply than its `stackLimit` is left out.
-/

namespace Mvr.JsonCpp

/-- `Json::Value`.  The members of an object are kept in the order of their names. -/
inductive Value where
  | null
  | int (n : Int64)
  | uint (n : UInt64)
  | real (d : Float)
  | string (s : String)
  | boolean (b : Bool)
  | array (items : List Value)
  | object (members : List (String × Value))

/-- The reader and the writer of the library. -/
structure Library where
  /-- `CharReader::parse` of a text into a root that holds a value: whether it succeeds, and what
  the root holds then. -/
  parse : List UInt8 → Value → Bool × Value
  /-- `StreamWriter::write`. -/
  write : Value → List UInt8
  /-- `valueToString` of a `double`. -/
  valueToString : Float → String

/-- A condition of the library is violated, and nobody catches the exception. -/
def logicError : Fault := .uncaught "Json::LogicError"

namespace Value

/-! ### Members -/

/-- The member of a name, null if there is none. -/
def lookup (key : String) : List (String × Value) → Value
  | [] => null
  | (name, value) :: members => if key = name then value else lookup key members

/-- The members after an assignment to a name. -/
def insert (key : String) (value : Value) : List (String × Value) → List (String × Value)
  | [] => [(key, value)]
  | (name, old) :: members =>
    if key = name then
      (key, value) :: members
    else if key < name then
      (key, value) :: (name, old) :: members
    else
      (name, old) :: insert key value members

/-- The members of a value on which `operator[]` is called with a name. -/
def members : Value → Checked (List (String × Value))
  | null => .ok []
  | object members => .ok members
  | _ => .error logicError

/-- The value after `f` was applied to what a path refers to, and the result of `f`. -/
def update {α : Type} (f : Value → Checked (Value × α)) : List String → Value → Checked (Value × α)
  | [], value => f value
  | key :: path, value => do
    let members ← value.members
    let (member, a) ← update f path (lookup key members)
    pure (object (insert key member members), a)

/-- `value[…][…] = member`. -/
def assign (value : Value) (path : List String) (member : Value) : Checked Value := do
  let (value, ()) ← update (fun _ => pure (member, ())) path value
  pure value

/-- The value of `value[…][…]`, with `value` as it is afterwards. -/
def read (value : Value) (path : List String) : Checked (Value × Value) :=
  update (fun member => pure (member, member)) path value

/-! ### Conversions -/

/-- `asInt`. -/
def asInt : Value → Checked Int32
  | null => .ok 0
  | int n => if -2 ^ 31 ≤ n.toInt ∧ n.toInt < 2 ^ 31 then .ok n.toInt32 else .error logicError
  | uint n =>
    if n.toNat < 2 ^ 31 then .ok (Int32.ofNat n.toNat) else .error logicError
  | real d => if -2147483648.0 ≤ d ∧ d ≤ 2147483647.0 then .ok d.toInt32 else .error logicError
  | boolean b => .ok (if b then 1 else 0)
  | _ => .error logicError

/-- `asString`. -/
def asString (json : Library) : Value → Checked String
  | null => .ok ""
  | int n => .ok (toString n)
  | uint n => .ok (toString n)
  | real d => .ok (json.valueToString d)
  | string s => .ok s
  | boolean b => .ok (if b then "true" else "false")
  | _ => .error logicError

/-- `append`. -/
def append (value item : Value) : Checked Value :=
  match value with
  | null => .ok (array [item])
  | array items => .ok (array (items ++ [item]))
  | _ => .error logicError

/-- `value != n` with an `int`: values of different types differ. -/
def neInt (value : Value) (n : Int32) : Bool :=
  match value with
  | int m => m != n.toInt64
  | _ => true

/-! ### Shapes -/

/-- What a path refers to in a value, null where a member is absent, and `none` where the path goes
through a value that has no members. -/
def at? : List String → Value → Option Value
  | [], value => some value
  | key :: path, null => at? path (lookup key [])
  | key :: path, object members => at? path (lookup key members)
  | _ :: _, _ => none

/-- The values that can be converted to `int`. -/
def IsInt : Value → Prop
  | null => True
  | int n => -2 ^ 31 ≤ n.toInt ∧ n.toInt < 2 ^ 31
  | uint n => n.toNat < 2 ^ 31
  | real d => -2147483648.0 ≤ d ∧ d ≤ 2147483647.0
  | boolean _ => True
  | _ => False

/-! ### Lemmas -/

@[simp] theorem lookup_insert (key : String) (value : Value) (members : List (String × Value)) :
    lookup key (insert key value members) = value := by
  induction members with
  | nil => exact if_pos rfl
  | cons m members ih =>
    obtain ⟨name, old⟩ := m
    unfold insert
    split_ifs with heq hlt
    · exact if_pos rfl
    · exact if_pos rfl
    · exact (if_neg heq).trans ih

/-- The last assignment to a name counts. -/
@[simp] theorem insert_insert (key : String) (value value' : Value)
    (members : List (String × Value)) :
    insert key value' (insert key value members) = insert key value' members := by
  induction members with
  | nil => exact if_pos rfl
  | cons m members ih =>
    obtain ⟨name, old⟩ := m
    by_cases heq : key = name
    · subst heq
      simp [insert]
    · by_cases hlt : key < name
      · simp [insert, heq, hlt]
      · simp [insert, heq, hlt, ih]

theorem members_object (members : List (String × Value)) : (object members).members = .ok members :=
  rfl

theorem update_cons {α : Type} (f : Value → Checked (Value × α)) (key : String)
    (path : List String) {value : Value} {members : List (String × Value)}
    (h : value.members = .ok members) :
    update f (key :: path) value =
      (update f path (lookup key members)).map fun p => (object (insert key p.1 members), p.2) := by
  rw [update, h, Checked.ok_bind]
  cases update f path (lookup key members) <;> rfl

/-- An assignment below a member. -/
theorem assign_cons (key : String) (path : List String) (member : Value) {value : Value}
    {members : List (String × Value)} (h : value.members = .ok members) :
    value.assign (key :: path) member =
      ((lookup key members).assign path member).map fun m => object (insert key m members) := by
  unfold assign
  rw [update_cons _ _ _ h]
  cases update (fun _ => pure (member, ())) path (lookup key members) <;> rfl

/-- An assignment below a member that was assigned last. -/
theorem assign_insert (key : String) (path : List String) (member old : Value)
    (members : List (String × Value)) :
    (object (insert key old members)).assign (key :: path) member =
      (old.assign path member).map fun m => object (insert key m members) := by
  rw [assign_cons key path member (members_object _), lookup_insert]
  simp only [insert_insert]

/-- A path through a member that was assigned last is read in that member. -/
theorem read_insert (key : String) (path : List String) (member : Value)
    (members : List (String × Value)) :
    (object (insert key member members)).read (key :: path) =
      (member.read path).map fun p => (object (insert key p.1 members), p.2) := by
  unfold read
  rw [update_cons _ _ _ (members_object _), lookup_insert]
  simp only [insert_insert]

/-- Assignments need an object or null. -/
theorem members_of_assign {key : String} {path : List String} {member value value' : Value}
    (h : value.assign (key :: path) member = .ok value') :
    ∃ members, value.members = .ok members := by
  unfold assign update at h
  cases hmem : value.members with
  | ok members => exact ⟨members, rfl⟩
  | error e =>
    rw [hmem] at h
    cases h

/-- An `int` comes back from a value it was stored in. -/
theorem asInt_int (n : Int32) : (int n.toInt64).asInt = .ok n := by
  have hle := n.toInt_lt
  have hge := n.le_toInt
  unfold asInt
  dsimp only
  rw [Int32.toInt_toInt64, if_pos (by omega), Int32.toInt32_toInt64]

/-- The values that `asInt` converts. -/
theorem asInt_isOk_iff {value : Value} : value.asInt.IsOk ↔ value.IsInt := by
  cases value with
  | null => exact iff_of_true ⟨0, rfl⟩ trivial
  | boolean b => exact iff_of_true ⟨_, rfl⟩ trivial
  | int n => exact Checked.isOk_ite_iff ..
  | uint n => exact Checked.isOk_ite_iff ..
  | real d => exact Checked.isOk_ite_iff ..
  | string s => exact iff_of_false (by rintro ⟨n, ⟨⟩⟩) id
  | array items => exact iff_of_false (by rintro ⟨n, ⟨⟩⟩) id
  | object members => exact iff_of_false (by rintro ⟨n, ⟨⟩⟩) id

theorem at?_cons (key : String) (path : List String) {value : Value}
    {members : List (String × Value)} (h : value.members = .ok members) :
    value.at? (key :: path) = (lookup key members).at? path := by
  cases value with
  | null =>
    cases h
    rfl
  | object members =>
    cases h
    rfl
  | _ => cases h

/-- `operator[]` along a path finds what the path refers to, or throws. -/
theorem read_eq_ok_iff {path : List String} {value member : Value} :
    (∃ value', value.read path = .ok (value', member)) ↔ value.at? path = some member := by
  induction path generalizing value with
  | nil =>
    constructor
    · rintro ⟨value', h⟩
      cases h
      rfl
    · intro h
      cases h
      exact ⟨member, rfl⟩
  | cons key path ih =>
    cases hmem : value.members with
    | error e =>
      -- neither an object nor null
      have hread : value.read (key :: path) = .error e := by
        unfold read update
        rw [hmem]
        rfl
      have hat : value.at? (key :: path) = none := by
        cases value with
        | null => cases hmem
        | object members => cases hmem
        | _ => rfl
      rw [hread, hat]
      exact iff_of_false (by rintro ⟨value', ⟨⟩⟩) (by rintro ⟨⟩)
    | ok members =>
      rw [at?_cons key path hmem, ← ih]
      unfold read
      rw [update_cons _ _ _ hmem]
      cases hsub : update (fun member => pure (member, member)) path (lookup key members) with
      | error e => exact iff_of_false (by rintro ⟨value', ⟨⟩⟩) (by rintro ⟨value', ⟨⟩⟩)
      | ok p =>
        constructor
        · rintro ⟨value', h⟩
          cases h
          exact ⟨p.1, rfl⟩
        · rintro ⟨value', h⟩
          cases h
          exact ⟨_, rfl⟩

theorem neInt_eq_false_iff {value : Value} {n : Int32} :
    value.neInt n = false ↔ value = int n.toInt64 := by
  unfold neInt
  cases value with
  | int m => simp
  | _ => simp

end Value

end Mvr.JsonCpp
