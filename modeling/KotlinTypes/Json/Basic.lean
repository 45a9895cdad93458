/-!
# JSON values

Settings and keywords are exchanged as JSON. The members of an object are kept
as a list, in their order and with repeated names, so that a reader can tell
an object that gives a setting twice.

JSON admits strings that are no text: `"\ud800"` escapes half of a surrogate
pair. Such a string does no harm where nobody looks at it, as in a member that
is passed over, so it is a value, but one of which nothing can be read.
-/

namespace KotlinTypes

/-- **A JSON value.** -/
inductive Json where
  /-- `null` -/
  | null
  /-- `true` or `false`. -/
  | bool (b : Bool)
  /-- A number, by its digits as written. -/
  | number (literal : String)
  /-- A string. -/
  | string (s : String)
  /-- An array of values. -/
  | array (items : List Json)
  /-- An object: names with their values. -/
  | object (members : List (String × Json))
  /-- A string that is no text, or an object with such a string for a name. -/
  | unreadable
  deriving Inhabited

namespace Json

/-- A natural number as a JSON value. -/
def ofNat (n : Nat) : Json :=
  .number (Nat.repr n)

/-- The truth value, if the value is one. -/
def asBool? : Json → Option Bool
  | .bool b => some b
  | _ => none

/-- The string, if the value is one. -/
def asString? : Json → Option String
  | .string s => some s
  | _ => none

/-- **The name that a value gives.** A string gives itself. An object with one
member, whose value is `null`, gives the name of that member. -/
def asName? : Json → Option String
  | .string s => some s
  | .object [(name, .null)] => some name
  | _ => none

/-- The object with these members. One name that is no text leaves the whole
unreadable. -/
def ofMembers (members : List (Option String × Json)) : Json :=
  match members.mapM (fun (name, value) => name.map (·, value)) with
  | some members => .object members
  | none => .unreadable

/-- **Reads one member of an object.** A name that is absent gives `absent`, a
name given once is read by `read`, and a name given twice is refused. -/
def member? {α : Type} (members : List (String × Json)) (name : String)
    (read : Json → Option α) (absent : α) : Option α :=
  match members.filter (fun m => m.1 == name) with
  | [] => some absent
  | [m] => read m.2
  | _ => none

/-- **Reads one item of an array.** A place past the end gives `absent`. -/
def item? {α : Type} (items : List Json) (place : Nat) (read : Json → Option α)
    (absent : α) : Option α :=
  (items[place]?).elim (some absent) read

end Json

end KotlinTypes
