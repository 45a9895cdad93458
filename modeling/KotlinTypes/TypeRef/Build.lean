import KotlinTypes.TypeParameter

/-!
# Building and copying types

A type is never changed: `setNullable` and `annotate` give a copy, and fail
where Kotlin has no such type. Each kind has its own rule, and the operations
on `TypeRef` go by the kind they find.
-/

namespace KotlinTypes

/-! ## Applied classes -/

namespace Applied

/-- **A class applied to arguments**, of which there has to be one at least.
Only the class of the reference counts; nullability and annotations of it are
dropped. -/
def of {τ : Type} (c : ClassRef) (arguments : List τ) : Except Rejection (Applied τ) :=
  if arguments.isEmpty then .error (.noTypeArguments c.name.canonical)
  else .ok ⟨c.name, arguments, false, []⟩

/-- The class that is applied, as a plain reference. -/
def baseClass {τ : Type} (a : Applied τ) : ClassRef :=
  .plain a.base

/-- The same class applied to one more argument. -/
def addArgument {τ : Type} (a : Applied τ) (argument : τ) : Applied τ :=
  { a with arguments := a.arguments ++ [argument] }

/-- The same type with the given nullability. -/
def setNullable {τ : Type} (a : Applied τ) (nullable : Bool) : Applied τ :=
  { a with nullable }

/-- The same type with more annotations after its own. -/
def annotate {τ : Type} (a : Applied τ) (annotations : List AnnotationUse) : Applied τ :=
  { a with annotations := a.annotations ++ annotations }

end Applied

/-! ## Projections -/

namespace Projected

/-- The projection `*`. -/
def star {τ : Type} : Projected τ :=
  ⟨.star, []⟩

/-- **The projection `out` a type.** Producing `Any?` says nothing, so that is
the projection `*`. -/
def producing (type : TypeRef) : Projected TypeRef :=
  if type.isNullableAny then star else ⟨.producer type, []⟩

/-- The projection `in` a type. -/
def consuming {τ : Type} (type : τ) : Projected τ :=
  ⟨.consumer type, []⟩

/-- The same projection. It is non-null already and cannot be nullable. -/
def setNullable (w : Projected TypeRef) (nullable : Bool) :
    Except Rejection (Projected TypeRef) :=
  if nullable then .error (.nullableProjection (TypeRef.ofProjected w).text) else .ok w

/-- The same projection with more annotations after its own. -/
def annotate {τ : Type} (w : Projected τ) (annotations : List AnnotationUse) : Projected τ :=
  { w with annotations := w.annotations ++ annotations }

end Projected

/-! ## Function types -/

namespace FunctionType

/-- The type of functions from the parameters to the result. -/
def of {τ : Type} (parameters : List τ) (result : τ) : FunctionType τ :=
  ⟨none, parameters, result, false, false, []⟩

/-- The same function type as an extension of the receiver. -/
def setReceiver {τ : Type} (f : FunctionType τ) (receiver : τ) : FunctionType τ :=
  { f with receiver := some receiver }

/-- The same function type, suspending or not. -/
def setSuspending {τ : Type} (f : FunctionType τ) (suspending : Bool) : FunctionType τ :=
  { f with suspending }

/-- The same function type with the given nullability. -/
def setNullable {τ : Type} (f : FunctionType τ) (nullable : Bool) : FunctionType τ :=
  { f with nullable }

/-- The same function type with more annotations after its own. -/
def annotate {τ : Type} (f : FunctionType τ) (annotations : List AnnotationUse) :
    FunctionType τ :=
  { f with annotations := f.annotations ++ annotations }

end FunctionType

/-! ## All kinds -/

namespace TypeRef

/-- The type of a class applied to arguments. -/
def applied (c : ClassRef) (arguments : List TypeRef) : Except Rejection TypeRef :=
  (Applied.of c arguments).map .ofApplied

/-- **The same type with the given nullability.** Projections and the dynamic
type cannot be nullable, and a definite parameter cannot be touched. -/
def setNullable (t : TypeRef) (nullable : Bool) : Except Rejection TypeRef :=
  match t with
  | .ofClass c => .ok (.ofClass (c.setNullable nullable))
  | .ofApplied a => .ok (.ofApplied (a.setNullable nullable))
  | .ofParameter v => (v.setNullable nullable).map .ofParameter
  | .ofProjected w => (w.setNullable nullable).map .ofProjected
  | .ofFunction f => .ok (.ofFunction (f.setNullable nullable))
  | .dynamic => if nullable then .error .nullableDynamic else .ok .dynamic

/-- **The same type with more annotations after its own.** The dynamic type
takes none. -/
def annotate (t : TypeRef) (annotations : List AnnotationUse) : Except Rejection TypeRef :=
  match t with
  | .ofClass c => .ok (.ofClass (c.annotate annotations))
  | .ofApplied a => .ok (.ofApplied (a.annotate annotations))
  | .ofParameter v => .ok (.ofParameter (v.annotate annotations))
  | .ofProjected w => .ok (.ofProjected (w.annotate annotations))
  | .ofFunction f => .ok (.ofFunction (f.annotate annotations))
  | .dynamic => if annotations.isEmpty then .ok .dynamic else .error .annotatedDynamic

end TypeRef

end KotlinTypes
