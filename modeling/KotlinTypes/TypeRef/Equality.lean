import KotlinTypes.TypeRef.Basic

/-!
# Equality of types

Types are compared by structure, down to the annotations of their innermost
parts. `TypeRef.same` is the comparison and `TypeRef.same_iff` says that it
decides equality; all other uses go through the instance `DecidableEq TypeRef`.
-/

namespace KotlinTypes.TypeRef

mutual
/-- Whether two types agree in every part. -/
def same : TypeRef → TypeRef → Bool
  | .ofClass c₁, .ofClass c₂ => decide (c₁ = c₂)
  | .ofApplied ⟨base₁, args₁, nullable₁, notes₁⟩, .ofApplied ⟨base₂, args₂, nullable₂, notes₂⟩ =>
      decide (base₁ = base₂) && sameAll args₁ args₂ && decide (nullable₁ = nullable₂)
        && decide (notes₁ = notes₂)
  | .ofParameter ⟨name₁, bounds₁, variance₁, nullness₁, reified₁, notes₁⟩,
    .ofParameter ⟨name₂, bounds₂, variance₂, nullness₂, reified₂, notes₂⟩ =>
      decide (name₁ = name₂) && sameAll bounds₁ bounds₂ && decide (variance₁ = variance₂)
        && decide (nullness₁ = nullness₂) && decide (reified₁ = reified₂)
        && decide (notes₁ = notes₂)
  | .ofProjected ⟨.star, notes₁⟩, .ofProjected ⟨.star, notes₂⟩ => decide (notes₁ = notes₂)
  | .ofProjected ⟨.producer t₁, notes₁⟩, .ofProjected ⟨.producer t₂, notes₂⟩ =>
      t₁.same t₂ && decide (notes₁ = notes₂)
  | .ofProjected ⟨.consumer t₁, notes₁⟩, .ofProjected ⟨.consumer t₂, notes₂⟩ =>
      t₁.same t₂ && decide (notes₁ = notes₂)
  | .ofFunction ⟨none, params₁, result₁, suspending₁, nullable₁, notes₁⟩,
    .ofFunction ⟨none, params₂, result₂, suspending₂, nullable₂, notes₂⟩ =>
      sameAll params₁ params₂ && result₁.same result₂ && decide (suspending₁ = suspending₂)
        && decide (nullable₁ = nullable₂) && decide (notes₁ = notes₂)
  | .ofFunction ⟨some receiver₁, params₁, result₁, suspending₁, nullable₁, notes₁⟩,
    .ofFunction ⟨some receiver₂, params₂, result₂, suspending₂, nullable₂, notes₂⟩ =>
      receiver₁.same receiver₂ && sameAll params₁ params₂ && result₁.same result₂
        && decide (suspending₁ = suspending₂) && decide (nullable₁ = nullable₂)
        && decide (notes₁ = notes₂)
  | .dynamic, .dynamic => true
  | _, _ => false
  termination_by structural t => t
/-- Whether two lists of types agree place by place. -/
def sameAll : List TypeRef → List TypeRef → Bool
  | [], [] => true
  | t :: ts, u :: us => t.same u && sameAll ts us
  | _, _ => false
  termination_by structural ts => ts
end

mutual
/-- **Agreement in every part is equality.** -/
theorem same_iff (t u : TypeRef) : t.same u = true ↔ t = u := by
  match t with
  | .ofClass _ => cases u <;> simp [same]
  | .ofApplied ⟨_, args, _, _⟩ =>
    match u with
    | .ofApplied ⟨_, args', _, _⟩ => simp [same, sameAll_iff args args', and_assoc]
    | .ofClass _ | .ofParameter _ | .ofProjected _ | .ofFunction _ | .dynamic => simp [same]
  | .ofParameter ⟨_, bounds, _, _, _, _⟩ =>
    match u with
    | .ofParameter ⟨_, bounds', _, _, _, _⟩ => simp [same, sameAll_iff bounds bounds', and_assoc]
    | .ofClass _ | .ofApplied _ | .ofProjected _ | .ofFunction _ | .dynamic => simp [same]
  | .ofProjected ⟨.star, _⟩ =>
    match u with
    | .ofProjected ⟨.star, _⟩ | .ofProjected ⟨.producer _, _⟩ | .ofProjected ⟨.consumer _, _⟩ =>
      simp [same]
    | .ofClass _ | .ofApplied _ | .ofParameter _ | .ofFunction _ | .dynamic => simp [same]
  | .ofProjected ⟨.producer t, _⟩ =>
    match u with
    | .ofProjected ⟨.producer t', _⟩ => simp [same, same_iff t t']
    | .ofProjected ⟨.star, _⟩ | .ofProjected ⟨.consumer _, _⟩ => simp [same]
    | .ofClass _ | .ofApplied _ | .ofParameter _ | .ofFunction _ | .dynamic => simp [same]
  | .ofProjected ⟨.consumer t, _⟩ =>
    match u with
    | .ofProjected ⟨.consumer t', _⟩ => simp [same, same_iff t t']
    | .ofProjected ⟨.star, _⟩ | .ofProjected ⟨.producer _, _⟩ => simp [same]
    | .ofClass _ | .ofApplied _ | .ofParameter _ | .ofFunction _ | .dynamic => simp [same]
  | .ofFunction ⟨none, params, result, _, _, _⟩ =>
    match u with
    | .ofFunction ⟨none, params', result', _, _, _⟩ =>
      simp [same, sameAll_iff params params', same_iff result result', and_assoc]
    | .ofFunction ⟨some _, _, _, _, _, _⟩ => simp [same]
    | .ofClass _ | .ofApplied _ | .ofParameter _ | .ofProjected _ | .dynamic => simp [same]
  | .ofFunction ⟨some receiver, params, result, _, _, _⟩ =>
    match u with
    | .ofFunction ⟨some receiver', params', result', _, _, _⟩ =>
      simp [same, same_iff receiver receiver', sameAll_iff params params',
        same_iff result result', and_assoc]
    | .ofFunction ⟨none, _, _, _, _, _⟩ => simp [same]
    | .ofClass _ | .ofApplied _ | .ofParameter _ | .ofProjected _ | .dynamic => simp [same]
  | .dynamic => cases u <;> simp [same]
/-- Agreement place by place is equality of lists. -/
theorem sameAll_iff (ts us : List TypeRef) : sameAll ts us = true ↔ ts = us := by
  match ts with
  | [] => cases us <;> simp [sameAll]
  | t :: ts =>
    match us with
    | [] => simp [sameAll]
    | u :: us => simp [sameAll, same_iff t u, sameAll_iff ts us]
end

instance : DecidableEq TypeRef :=
  fun t u => decidable_of_iff _ (same_iff t u)

/-! ## Top types -/

/-- Whether the type is exactly `Any`. -/
def isAny (t : TypeRef) : Bool :=
  decide (t = any)

/-- Whether the type is exactly `Any?`. An annotated `Any?` is another type. -/
def isNullableAny (t : TypeRef) : Bool :=
  decide (t = nullableAny)

/-- Whether the type is one of the two forms of the top type. -/
def isTop (t : TypeRef) : Bool :=
  t.isAny || t.isNullableAny

@[simp] theorem isAny_iff (t : TypeRef) : t.isAny = true ↔ t = any := decide_eq_true_iff

@[simp] theorem isNullableAny_iff (t : TypeRef) : t.isNullableAny = true ↔ t = nullableAny :=
  decide_eq_true_iff

theorem isTop_iff (t : TypeRef) : t.isTop = true ↔ t = any ∨ t = nullableAny := by
  rw [isTop, Bool.or_eq_true, isAny_iff, isNullableAny_iff]

end KotlinTypes.TypeRef
