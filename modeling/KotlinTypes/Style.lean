/-!
# Styles

The choices left open when types are written as source text.
-/

namespace KotlinTypes

/-- **How types and generics are written.** -/
structure Style where
  /-- Whether every class is written by its relative name, so that the caller
  has to import it. Classes of the default imports always are. -/
  relativeNames : Bool
  /-- Whether the `where` block takes a line of its own. -/
  whereOnOwnLine : Bool
  /-- What that line is indented by. -/
  indent : String
  deriving DecidableEq

namespace Style

/-- The style when nothing is said: canonical names, the `where` block on the
same line, an indent of two spaces. -/
def standard : Style :=
  ⟨false, false, "  "⟩

/-- The standard style with relative names. -/
def relative : Style :=
  { standard with relativeNames := true }

end Style

end KotlinTypes
