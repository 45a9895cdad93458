import KotlinTypes.Json.Basic
import KotlinTypes.Modifier
import KotlinTypes.Style
import KotlinTypes.Variance

/-!
# Settings as JSON

A style is an object with one member per choice; a choice that is absent keeps
its standard value and members of other names are passed over. It may also be
an array of the choices in the order of `Style`, and a choice past its end
keeps its standard value. A modifier is given by a name, its identifier in
small letters, and a variance by its identifier. A name is a string, or an
object whose one member has that name and the value `null`.
-/

namespace KotlinTypes

namespace Style

/-- The style as a JSON object with all its members. -/
def toJson (style : Style) : Json :=
  .object [("simple_names", .bool style.relativeNames),
    ("where_on_new_line", .bool style.whereOnOwnLine), ("indent", .string style.indent)]

/-- **The style of a JSON value**, an object or an array. The members of an
object may come in any order. One that is given has to have its type, so `null`
will not do, and may not be given twice. The items of an array have to be of
the right types too, and no more than there are choices. -/
def ofJson? : Json → Option Style
  | .object members => do
      let relativeNames ← Json.member? members "simple_names" Json.asBool? standard.relativeNames
      let whereOnOwnLine ←
        Json.member? members "where_on_new_line" Json.asBool? standard.whereOnOwnLine
      let indent ← Json.member? members "indent" Json.asString? standard.indent
      return ⟨relativeNames, whereOnOwnLine, indent⟩
  | .array items => do
      guard (items.length ≤ 3)
      let relativeNames ← Json.item? items 0 Json.asBool? standard.relativeNames
      let whereOnOwnLine ← Json.item? items 1 Json.asBool? standard.whereOnOwnLine
      let indent ← Json.item? items 2 Json.asString? standard.indent
      return ⟨relativeNames, whereOnOwnLine, indent⟩
  | _ => none

end Style

namespace Modifier

/-- The name of a modifier in exchanged data: its identifier in small letters. -/
def dataName (m : Modifier) : String :=
  String.ofList (m.identifier.toList.map Char.toLower)

/-- The modifier as JSON. -/
def toJson (m : Modifier) : Json :=
  .string m.dataName

/-- **The modifier of a JSON value**, which has to give its name. -/
def ofJson? (value : Json) : Option Modifier :=
  value.asName?.bind (fun s => all.find? (fun m => m.dataName == s))

end Modifier

namespace Variance

/-- The variance as JSON. -/
def toJson (v : Variance) : Json :=
  .string v.identifier

/-- The variance of a JSON value, which has to give its identifier. -/
def ofJson? (value : Json) : Option Variance :=
  value.asName?.bind ofIdentifier?

end Variance

end KotlinTypes
