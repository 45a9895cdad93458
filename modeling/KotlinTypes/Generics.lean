import KotlinTypes.Log
import KotlinTypes.TypeParameter

/-!
# The generics of a declaration

Kotlin writes the type parameters of a declaration in two places. The list in
angle brackets, right after `fun` or the name of the class, has an entry for
every parameter, and a parameter with one bound has it there. Two bounds or
more have no room in an entry: they are **hoisted** and become constraints,
`name : bound` each, in a `where` block that follows the result type.

A parameter in the definite form is written `T & Any` and its bounds nowhere,
since the declaration it refers to has them already.
-/

namespace KotlinTypes

/-! ## One parameter -/

namespace TypeParameter

/-- **Whether the bounds are hoisted** into the `where` block: there are two or
more of them, and the parameter is not definite. -/
def needsWhere {τ : Type} (v : TypeParameter τ) : Bool :=
  !v.isDefinite && v.hasSeveralBounds

/-- **Writes the entry of a parameter** in the angle brackets: annotations,
`reified`, the variance, the name, and then `& Any` in the definite form or the
bound if there is exactly one. -/
def writeEntry (v : TypeParameter TypeRef) : Writer := fun p =>
  let p := AnnotationUse.writeAll v.annotations p
  let p := if v.reified then p.put "reified " else p
  let p :=
    match v.variance.keyword? with
    | none => p
    | some keyword => (p.put keyword).space
  let p := p.put v.name
  if v.isDefinite then p.put " & " |> TypeRef.any.write
  else
    match v.bounds with
    | [bound] => p.put " : " |> bound.write
    | _ => p

/-- The hoisted bounds of a parameter, each with the parameter's name. -/
def constraints (v : TypeParameter TypeRef) : List (String × TypeRef) :=
  if v.needsWhere then v.bounds.map (fun bound => (v.name, bound)) else []

end TypeParameter

/-- The elements of a list that stand in it for the second time or later, in
order; `seen` holds those that came before. -/
def repeatedAfter {α : Type} [DecidableEq α] (seen : List α) : List α → List α
  | [] => []
  | x :: rest =>
      if x ∈ seen then x :: repeatedAfter (x :: seen) rest else repeatedAfter (x :: seen) rest

/-- **The repeated elements** of a list: one for each place whose element
stands at an earlier place too. -/
def repeated {α : Type} [DecidableEq α] (xs : List α) : List α :=
  repeatedAfter [] xs

/-- **What writing an entry notes**: how many bounds the parameter has, then a
warning for every bound given before. A definite parameter writes no bounds
and has nothing to warn about. -/
def TypeParameter.remarks (v : TypeParameter TypeRef) : List LogEntry :=
  if v.isDefinite then
    [⟨.trace, v.name ++ " is definitely non-nullable, its bounds are not written"⟩]
  else
    ⟨.trace, v.name ++ " has " ++ Nat.repr v.bounds.length ++ " explicit bound(s)"⟩ ::
      (repeated v.bounds).map (fun bound =>
        ⟨.warn, v.name ++ " is bounded by " ++ bound.text ++ " more than once"⟩)

/-! ## All parameters -/

/-- **The generics of a declaration**, as text for its two places. -/
structure Generics where
  /-- The list in angle brackets, brackets included; empty if there are no
  parameters. -/
  parameterList : String
  /-- The constraints of the `where` block without its keyword; empty if no
  bounds are hoisted. -/
  constraints : String
  deriving DecidableEq

namespace Generics

/-- Writes one constraint of the `where` block. -/
def writeConstraint (constraint : String × TypeRef) : Writer := fun p =>
  (p.put constraint.1).put " : " |> constraint.2.write

/-- **The generics of a list of parameters** in a style. -/
def render (parameters : List (TypeParameter TypeRef)) (style : Style) : Generics where
  parameterList :=
    Writer.textIn (Printer.angled parameters TypeParameter.writeEntry) style
  constraints :=
    Writer.textIn
      (Printer.separated ", " (parameters.flatMap TypeParameter.constraints) writeConstraint) style

/-- **What rendering notes**: the remarks on every parameter, in order. -/
def remarks (parameters : List (TypeParameter TypeRef)) : List LogEntry :=
  parameters.flatMap TypeParameter.remarks

/-- The generics of a list of parameters, with what rendering notes. -/
def renderLogged (parameters : List (TypeParameter TypeRef)) (style : Style) : Logged Generics :=
  ⟨render parameters style, remarks parameters⟩

/-- Whether there are no parameters to declare. -/
def isEmpty (g : Generics) : Bool :=
  g.parameterList.isEmpty

/-- **The `where` block** as it follows a result type, with the blank before it:
a space, or a new line and the indent of the style. Without constraints there
is no block. -/
def whereText (g : Generics) (style : Style) : String :=
  if g.constraints.isEmpty then ""
  else if style.whereOnOwnLine then "\n" ++ style.indent ++ "where " ++ g.constraints
  else " where " ++ g.constraints

end Generics

end KotlinTypes
