import KotlinTypes.TypeRef.Bounds
import KotlinTypes.TypeRef.Text

/-!
# Type parameters

A type parameter is built from a name, a variance and bounds, and changed by
copies. The bounds it keeps are the constraining ones, so that parameters that
mean the same are equal however their bounds were given.

The **definite** form `T & Any` is one-way. It may be entered from the plain
form where there is something to intersect with, that is, where the parameter
is bounded by more than a top type. From then on neither its nullability nor
its bounds can be changed; only annotations and `reified` still can.
-/

namespace KotlinTypes.TypeParameter

/-! ## Building -/

/-- A plain invariant parameter with the given bounds. -/
def ofBounds (name : String) (bounds : List TypeRef) : TypeParameter TypeRef :=
  ⟨name, Bounds.constraining bounds, .invariant, .plain, false, []⟩

/-- A plain invariant parameter without bounds. -/
def unbounded (name : String) : TypeParameter TypeRef :=
  ofBounds name []

/-- **A parameter declared with a modifier**, which has to be `in`, `out` or
absent. -/
def declared (name : String) (modifier : Option Modifier) (bounds : List TypeRef) :
    Except Rejection (TypeParameter TypeRef) :=
  match Variance.ofModifier name modifier with
  | .ok variance => .ok { ofBounds name bounds with variance }
  | .error r => .error r

/-! ## Reading -/

/-- **The upper bounds**: the written ones, or `Any?` if there are none. -/
def upperBounds (v : TypeParameter TypeRef) : List TypeRef :=
  Bounds.upper v.bounds

/-- Whether a reference to the parameter allows `null`. -/
def isNullable {τ : Type} (v : TypeParameter τ) : Bool :=
  decide (v.nullness = .nullable)

/-- Whether the parameter is in the definite form. -/
def isDefinite {τ : Type} (v : TypeParameter τ) : Bool :=
  decide (v.nullness = .definite)

/-- Whether two bounds or more are written. -/
def hasSeveralBounds {τ : Type} (v : TypeParameter τ) : Bool :=
  decide (1 < v.bounds.length)

/-! ## Copies that always succeed -/

/-- The same parameter, reified or not. -/
def setReified {τ : Type} (v : TypeParameter τ) (reified : Bool) : TypeParameter τ :=
  { v with reified }

/-- The same parameter with more annotations after its own. -/
def annotate {τ : Type} (v : TypeParameter τ) (annotations : List AnnotationUse) :
    TypeParameter τ :=
  { v with annotations := v.annotations ++ annotations }

/-! ## Copies under the rules of the definite form -/

/-- **The same parameter with the given nullability**, unless it is definite. -/
def setNullable {τ : Type} (v : TypeParameter τ) (nullable : Bool) :
    Except Rejection (TypeParameter τ) :=
  if v.isDefinite then
    .error (if nullable then .nullableDefinite v.name else .nonNullDefinite v.name)
  else
    .ok { v with nullness := if nullable then .nullable else .plain }

/-- **The same parameter with other bounds**, unless it is definite. -/
def setBounds (v : TypeParameter TypeRef) (bounds : List TypeRef) :
    Except Rejection (TypeParameter TypeRef) :=
  if v.isDefinite then .error (.boundsOfDefinite v.name)
  else .ok { v with bounds := Bounds.constraining bounds }

/-- The same parameter with more bounds after its upper bounds, unless it is
definite. -/
def addBounds (v : TypeParameter TypeRef) (bounds : List TypeRef) :
    Except Rejection (TypeParameter TypeRef) :=
  v.setBounds (v.upperBounds ++ bounds)

/-- **The definite form** of a plain parameter. A nullable parameter has none,
and neither has one whose only upper bound is a top type. -/
def definite (v : TypeParameter TypeRef) : Except Rejection (TypeParameter TypeRef) :=
  match v.nullness with
  | .definite => .error (.alreadyDefinite v.name)
  | .nullable => .error (.definiteOfNullable v.name)
  | .plain =>
    match v.upperBounds with
    | [only] =>
        if only.isTop then .error (.definiteOfTop v.name only.text)
        else .ok { v with nullness := .definite }
    | _ => .ok { v with nullness := .definite }

end KotlinTypes.TypeParameter
