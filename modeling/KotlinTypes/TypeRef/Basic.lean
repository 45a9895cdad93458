import KotlinTypes.ClassRef
import KotlinTypes.Variance

/-!
# Type references

A type that can stand in Kotlin source is one of six kinds: a class, a class
applied to arguments, a type parameter, a use-site projection, a function
type, or the dynamic type. Each kind that has parts is a structure over the
type `τ` of its parts, and `TypeRef` ties the knot by taking itself for `τ`.

Some rules hold by the shape of the data. The class that is applied is a bare
name, so it is neither nullable nor annotated. A type parameter has one of
three forms, so one that is definitely non-null is never nullable besides.
Projections and the dynamic type have no place for a question mark.
-/

namespace KotlinTypes

/-- **A class applied to type arguments**, such as `Map<String, out Number>`. -/
structure Applied (τ : Type) where
  /-- The class that is applied. -/
  base : QualifiedName
  /-- Its arguments, first one first. -/
  arguments : List τ
  /-- Whether `null` is allowed beside its instances. -/
  nullable : Bool
  /-- The annotations of this type. -/
  annotations : List AnnotationUse
  deriving DecidableEq

/-- **What a reference to a type parameter says about `null`.** -/
inductive Nullness where
  /-- `T`: nothing beyond what the bounds say. -/
  | plain
  /-- `T?`: `null` is allowed. -/
  | nullable
  /-- `T & Any`, the definite form: `null` is excluded, whatever `T` is. -/
  | definite
  deriving DecidableEq

/-- **A type parameter**, such as `reified out T : Comparable<T>`. As a
reference it is written by its name alone. -/
structure TypeParameter (τ : Type) where
  /-- The name of the parameter. -/
  name : String
  /-- The bounds that source text spells out, first one first. The bound
  `Any?` constrains nothing and is never among them. -/
  bounds : List τ
  /-- Its declaration-site variance. -/
  variance : Variance
  /-- What a reference to it says about `null`. -/
  nullness : Nullness
  /-- Whether its type is known at run time. -/
  reified : Bool
  /-- The annotations of the parameter. -/
  annotations : List AnnotationUse
  deriving DecidableEq

/-- **What a use-site projection lets through.** -/
inductive Projection (τ : Type) where
  /-- `*` -/
  | star
  /-- `out` a type. -/
  | producer (type : τ)
  /-- `in` a type. -/
  | consumer (type : τ)
  deriving DecidableEq

/-- **A use-site projection** with its annotations. -/
structure Projected (τ : Type) where
  /-- What is let through. -/
  projection : Projection τ
  /-- The annotations of the projection. -/
  annotations : List AnnotationUse
  deriving DecidableEq

/-- **A function type**, such as `suspend String.(Int) -> Unit`. -/
structure FunctionType (τ : Type) where
  /-- The type the function is called on, if it is an extension. -/
  receiver : Option τ
  /-- The types of its parameters, first one first. -/
  parameters : List τ
  /-- The type of its result. -/
  result : τ
  /-- Whether calling it may suspend. -/
  suspending : Bool
  /-- Whether `null` is allowed beside functions. -/
  nullable : Bool
  /-- The annotations of this type. -/
  annotations : List AnnotationUse
  deriving DecidableEq

/-- **A type** as it can be referred to in Kotlin source. -/
inductive TypeRef where
  /-- A class without arguments. -/
  | ofClass (c : ClassRef)
  /-- A class with arguments. -/
  | ofApplied (a : Applied TypeRef)
  /-- A type parameter. -/
  | ofParameter (v : TypeParameter TypeRef)
  /-- A use-site projection. -/
  | ofProjected (w : Projected TypeRef)
  /-- A function type. -/
  | ofFunction (f : FunctionType TypeRef)
  /-- The type `dynamic`, which opts out of checking. -/
  | dynamic

namespace TypeRef

/-! ## Types every program has -/

/-- A class of the package `kotlin`. -/
def kotlin (name : String) : TypeRef :=
  .ofClass (.kotlin name)

/-- The non-null top type `Any`. -/
def any : TypeRef := kotlin "Any"

/-- **The top type** `Any?`, which every type is a subtype of. -/
def nullableAny : TypeRef :=
  .ofClass ((ClassRef.kotlin "Any").setNullable true)

/-- The type of functions that return nothing of interest. -/
def unit : TypeRef := kotlin "Unit"

/-- The type without values. -/
def nothing : TypeRef := kotlin "Nothing"

/-- The type of strings. -/
def string : TypeRef := kotlin "String"

/-- The type of 32-bit integers. -/
def int : TypeRef := kotlin "Int"

/-- The type of 64-bit integers. -/
def long : TypeRef := kotlin "Long"

/-- The type of truth values. -/
def boolean : TypeRef := kotlin "Boolean"

/-- The common supertype of the number types. -/
def number : TypeRef := kotlin "Number"

/-- The type of readable character sequences. -/
def charSequence : TypeRef := kotlin "CharSequence"

/-- The class of types with an order, without its argument. -/
def comparable : TypeRef := kotlin "Comparable"

/-- The class of lists, without its argument. -/
def list : TypeRef := .ofClass (.collections "List")

/-- The class of maps, without its arguments. -/
def map : TypeRef := .ofClass (.collections "Map")

/-! ## What all kinds have in common -/

/-- Whether the type is marked nullable. -/
def isNullable : TypeRef → Bool
  | .ofClass c => c.nullable
  | .ofApplied a => a.nullable
  | .ofParameter v => decide (v.nullness = .nullable)
  | .ofFunction f => f.nullable
  | .ofProjected _ | .dynamic => false

/-- **The annotations of a type**, first one first. -/
def annotations : TypeRef → List AnnotationUse
  | .ofClass c => c.annotations
  | .ofApplied a => a.annotations
  | .ofParameter v => v.annotations
  | .ofProjected w => w.annotations
  | .ofFunction f => f.annotations
  | .dynamic => []

end TypeRef

end KotlinTypes
