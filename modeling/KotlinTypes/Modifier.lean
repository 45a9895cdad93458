/-!
# Modifier keywords

Kotlin's declaration modifiers. A modifier has two spellings that are kept
apart: its **keyword**, which stands in source text, and its **identifier**,
the capitalised name it goes by in diagnostics and, in small letters, in
exchanged data. `Modifier.ofKeyword?` reads keywords and `Modifier.keyword`
writes them; each goes by a table of its own.
-/

namespace KotlinTypes

/-- **A declaration modifier** of Kotlin. -/
inductive Modifier where
  | «public»
  | «protected»
  | «private»
  | internal
  | expect
  | actual
  | final
  | «open»
  | abstract
  | sealed
  | const
  | external
  | override
  | lateinit
  | tailrec
  | vararg
  | suspend
  | inner
  | enumClass
  | annotationClass
  | funInterface
  | companion
  | inline
  | value
  | noinline
  | crossinline
  | reified
  | infixFunction
  | operator
  | data
  | contravariant
  | covariant
  deriving DecidableEq

namespace Modifier

/-- Every modifier, once. -/
def all : List Modifier :=
  [.«public», .«protected», .«private», .internal, .expect, .actual, .final, .«open», .abstract,
   .sealed, .const, .external, .override, .lateinit, .tailrec, .vararg, .suspend, .inner,
   .enumClass, .annotationClass, .funInterface, .companion, .inline, .value, .noinline,
   .crossinline, .reified, .infixFunction, .operator, .data, .contravariant, .covariant]

/-- Every modifier is listed. -/
theorem mem_all (m : Modifier) : m ∈ all := by
  cases m <;> decide

/-- **The keyword** of a modifier, as source text has it. This one text is both
what a modifier is shown as and the constant text it can be turned into. -/
def keyword : Modifier → String
  | .«public» => "public"
  | .«protected» => "protected"
  | .«private» => "private"
  | .internal => "internal"
  | .expect => "expect"
  | .actual => "actual"
  | .final => "final"
  | .«open» => "open"
  | .abstract => "abstract"
  | .sealed => "sealed"
  | .const => "const"
  | .external => "external"
  | .override => "override"
  | .lateinit => "lateinit"
  | .tailrec => "tailrec"
  | .vararg => "vararg"
  | .suspend => "suspend"
  | .inner => "inner"
  | .enumClass => "enum"
  | .annotationClass => "annotation"
  | .funInterface => "fun"
  | .companion => "companion"
  | .inline => "inline"
  | .value => "value"
  | .noinline => "noinline"
  | .crossinline => "crossinline"
  | .reified => "reified"
  | .infixFunction => "infix"
  | .operator => "operator"
  | .data => "data"
  | .contravariant => "in"
  | .covariant => "out"

/-- **The modifier of a keyword**, if the text is exactly one: case counts,
and neither blanks nor a longer word are forgiven. -/
def ofKeyword? : String → Option Modifier
  | "public" => some .«public»
  | "protected" => some .«protected»
  | "private" => some .«private»
  | "internal" => some .internal
  | "expect" => some .expect
  | "actual" => some .actual
  | "final" => some .final
  | "open" => some .«open»
  | "abstract" => some .abstract
  | "sealed" => some .sealed
  | "const" => some .const
  | "external" => some .external
  | "override" => some .override
  | "lateinit" => some .lateinit
  | "tailrec" => some .tailrec
  | "vararg" => some .vararg
  | "suspend" => some .suspend
  | "inner" => some .inner
  | "enum" => some .enumClass
  | "annotation" => some .annotationClass
  | "fun" => some .funInterface
  | "companion" => some .companion
  | "inline" => some .inline
  | "value" => some .value
  | "noinline" => some .noinline
  | "crossinline" => some .crossinline
  | "reified" => some .reified
  | "infix" => some .infixFunction
  | "operator" => some .operator
  | "data" => some .data
  | "in" => some .contravariant
  | "out" => some .covariant
  | _ => none

/-- **The identifier** of a modifier, with a capital first letter. -/
def identifier : Modifier → String
  | .«public» => "Public"
  | .«protected» => "Protected"
  | .«private» => "Private"
  | .internal => "Internal"
  | .expect => "Expect"
  | .actual => "Actual"
  | .final => "Final"
  | .«open» => "Open"
  | .abstract => "Abstract"
  | .sealed => "Sealed"
  | .const => "Const"
  | .external => "External"
  | .override => "Override"
  | .lateinit => "Lateinit"
  | .tailrec => "Tailrec"
  | .vararg => "Vararg"
  | .suspend => "Suspend"
  | .inner => "Inner"
  | .enumClass => "Enum"
  | .annotationClass => "Annotation"
  | .funInterface => "Fun"
  | .companion => "Companion"
  | .inline => "Inline"
  | .value => "Value"
  | .noinline => "Noinline"
  | .crossinline => "Crossinline"
  | .reified => "Reified"
  | .infixFunction => "Infix"
  | .operator => "Operator"
  | .data => "Data"
  | .contravariant => "In"
  | .covariant => "Out"

end Modifier

end KotlinTypes
