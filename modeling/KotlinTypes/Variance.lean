import KotlinTypes.Rejection

/-!
# Variance

A type parameter is invariant unless its declaration says `in` or `out`.
-/

namespace KotlinTypes

/-- **Declaration-site variance** of a type parameter. -/
inductive Variance where
  /-- Neither keyword. -/
  | invariant
  /-- `out`: the parameter is only produced. -/
  | covariant
  /-- `in`: the parameter is only consumed. -/
  | contravariant
  deriving DecidableEq

namespace Variance

/-- The modifier that declares a variance, if it takes one. -/
def modifier? : Variance → Option Modifier
  | .invariant => none
  | .covariant => some .covariant
  | .contravariant => some .contravariant

/-- **The keyword** that declares a variance, if it takes one. -/
def keyword? : Variance → Option String
  | .invariant => none
  | .covariant => some "out"
  | .contravariant => some "in"

/-- **The variance a modifier declares** for the parameter `name`: only `in`,
`out` or no modifier at all will do. -/
def ofModifier (name : String) : Option Modifier → Except Rejection Variance
  | none => .ok .invariant
  | some .covariant => .ok .covariant
  | some .contravariant => .ok .contravariant
  | some other => .error (.notAVariance name other)

/-- **The identifier** of a variance. -/
def identifier : Variance → String
  | .invariant => "Invariant"
  | .covariant => "Covariant"
  | .contravariant => "Contravariant"

/-- The variance with the given identifier. -/
def ofIdentifier? : String → Option Variance
  | "Invariant" => some .invariant
  | "Covariant" => some .covariant
  | "Contravariant" => some .contravariant
  | _ => none

end Variance

end KotlinTypes
