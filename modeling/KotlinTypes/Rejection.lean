import KotlinTypes.Modifier
import KotlinTypes.Text.Quoted

/-!
# Rejections

A construction or a copy that would break a rule of Kotlin's types is refused,
and the refusal names its cause. `Rejection.message` is the sentence for a
reader, `Rejection.diagnostic` the same sentence quoted, with the cause's name
and number.

Six of the causes guard the **definite** form `T & Any` of a type parameter,
which is entered once and never left (`Rejection.guardsDefinite`).
-/

namespace KotlinTypes

/-- **Why a type was refused.** -/
inductive Rejection where
  /-- A modifier other than `in` and `out` was given as the variance of the
  parameter `name`. -/
  | notAVariance (name : String) (modifier : Modifier)
  /-- The text names no class. -/
  | notAClassName (text : String)
  /-- The class `raw` was to be applied to no arguments at all. -/
  | noTypeArguments (raw : String)
  /-- A use-site projection was to be made nullable. -/
  | nullableProjection (projection : String)
  /-- The dynamic type was to be made nullable. -/
  | nullableDynamic
  /-- The dynamic type was to be annotated. -/
  | annotatedDynamic
  /-- A definite parameter was to be made nullable. -/
  | nullableDefinite (name : String)
  /-- A definite parameter was to be made non-null, which it is for good. -/
  | nonNullDefinite (name : String)
  /-- The bounds of a definite parameter were to be changed. -/
  | boundsOfDefinite (name : String)
  /-- A definite parameter was to be made definite once more. -/
  | alreadyDefinite (name : String)
  /-- A nullable parameter was to be made definite. -/
  | definiteOfNullable (name : String)
  /-- A parameter whose only bound is a top type was to be made definite. -/
  | definiteOfTop (name : String) (bound : String)
  deriving DecidableEq

namespace Rejection

/-- **The sentence** that tells a reader what was refused. -/
def message : Rejection → String
  | .notAVariance name modifier =>
      "`" ++ modifier.keyword ++ "` cannot be used as the variance of `" ++ name
        ++ "`, only `in` or `out` can."
  | .notAClassName text => "`" ++ text ++ "` doesn't look like a class name."
  | .noTypeArguments raw => "`" ++ raw ++ "` must be parameterized with at least one type."
  | .nullableProjection projection =>
      "`" ++ projection ++ "` is a projection and cannot be nullable."
  | .nullableDynamic => "`dynamic` cannot be nullable."
  | .annotatedDynamic => "`dynamic` cannot be annotated."
  | .nullableDefinite name =>
      "`" ++ name ++ " & Any` is definitely non-nullable and cannot be made nullable."
  | .nonNullDefinite name => "`" ++ name ++ " & Any` is already definitely non-nullable."
  | .boundsOfDefinite name => "The bounds of `" ++ name ++ " & Any` cannot be changed."
  | .alreadyDefinite name =>
      "`" ++ name ++ " & Any` cannot be made definitely non-nullable twice."
  | .definiteOfNullable name =>
      "`" ++ name ++ "?` is nullable and cannot be made definitely non-nullable."
  | .definiteOfTop name bound =>
      "`" ++ name ++ "` is only bounded by `" ++ bound
        ++ "`, so there is nothing to intersect with."

/-- **The number** of a cause, from one to twelve. -/
def number : Rejection → Nat
  | .notAVariance .. => 1
  | .notAClassName _ => 2
  | .noTypeArguments _ => 3
  | .nullableProjection _ => 4
  | .nullableDynamic => 5
  | .annotatedDynamic => 6
  | .nullableDefinite _ => 7
  | .nonNullDefinite _ => 8
  | .boundsOfDefinite _ => 9
  | .alreadyDefinite _ => 10
  | .definiteOfNullable _ => 11
  | .definiteOfTop .. => 12

/-- **The name** a cause goes by in diagnostics. -/
def label : Rejection → String
  | .notAVariance .. => "InvalidVariance"
  | .notAClassName _ => "InvalidClassName"
  | .noTypeArguments _ => "MissingTypeArguments"
  | .nullableProjection _ => "NullableWildcard"
  | .nullableDynamic => "NullableDynamic"
  | .annotatedDynamic => "AnnotatedDynamic"
  | .nullableDefinite _ => "NullableDefinitelyNonNullable"
  | .nonNullDefinite _ => "NonNullableDefinitelyNonNullable"
  | .boundsOfDefinite _ => "BoundsOfDefinitelyNonNullable"
  | .alreadyDefinite _ => "AlreadyDefinitelyNonNullable"
  | .definiteOfNullable _ => "DefinitelyNonNullableFromNullable"
  | .definiteOfTop .. => "DefinitelyNonNullableOfTopType"

/-- Whether the cause is one of the rules on the definite form `T & Any`. -/
def guardsDefinite : Rejection → Bool
  | .nullableDefinite _ | .nonNullDefinite _ | .boundsOfDefinite _ | .alreadyDefinite _
  | .definiteOfNullable _ | .definiteOfTop .. => true
  | .notAVariance .. | .notAClassName _ | .noTypeArguments _ | .nullableProjection _
  | .nullableDynamic | .annotatedDynamic => false

/-- **The diagnostic**: the quoted sentence, then the cause's name and number
in parentheses. -/
def diagnostic (r : Rejection) : String :=
  Quoted.quote r.message ++ " (" ++ r.label ++ " #" ++ Nat.repr r.number ++ ")"

end Rejection

end KotlinTypes
