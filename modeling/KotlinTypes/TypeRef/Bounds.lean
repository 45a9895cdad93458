import KotlinTypes.TypeRef.Equality

/-!
# Bounds of a type parameter

A list of bounds is read in two ways. As **upper bounds** it is complete: a
parameter without bounds has the upper bound `Any?`, and beside any other bound
`Any?` says nothing and is dropped. As **written bounds** it is what source
text spells out, and there a lone `Any?` is left unsaid.

Bounds are a list and not a set: their order is kept and a bound given twice
counts twice.
-/

namespace KotlinTypes.Bounds

/-- **The bounds that constrain**: all but those that are `Any?`. -/
def constraining (declared : List TypeRef) : List TypeRef :=
  declared.filter (fun t => !t.isNullableAny)

/-- **The upper bounds** that declared bounds amount to; never none. -/
def upper (declared : List TypeRef) : List TypeRef :=
  match constraining declared with
  | [] => [.nullableAny]
  | bounds => bounds

/-- **The written bounds** among upper bounds: all of them, except that a lone
`Any?` goes without saying. -/
def written : List TypeRef → List TypeRef
  | [only] => if only.isNullableAny then [] else [only]
  | bounds => bounds

/-- The constraining bounds are those that differ from `Any?`. -/
theorem constraining_eq_filter (xs : List TypeRef) :
    constraining xs = xs.filter (fun t => t ≠ .nullableAny) :=
  List.filter_congr (fun _ _ => (decide_not).symm)

@[simp] theorem constraining_append (xs ys : List TypeRef) :
    constraining (xs ++ ys) = constraining xs ++ constraining ys :=
  List.filter_append ..

@[simp] theorem constraining_nullableAny : constraining [.nullableAny] = [] := by
  simp [constraining]

/-- Bounds that constrain go on constraining. -/
@[simp] theorem constraining_constraining (xs : List TypeRef) :
    constraining (constraining xs) = constraining xs :=
  List.filter_eq_self.mpr (fun _ h => (List.mem_filter.mp h).2)

/-- The upper bounds of bounds that amount to none. -/
theorem upper_of_nil {xs : List TypeRef} (h : constraining xs = []) :
    upper xs = [.nullableAny] := by
  rw [upper, h]

/-- The upper bounds of bounds that amount to some are those. -/
theorem upper_of_ne_nil {xs : List TypeRef} (h : constraining xs ≠ []) :
    upper xs = constraining xs := by
  unfold upper
  split
  · next hnil => exact absurd hnil h
  · rfl

/-- **Completing bounds adds none that constrain.** -/
@[simp] theorem constraining_upper (xs : List TypeRef) :
    constraining (upper xs) = constraining xs := by
  by_cases h : constraining xs = []
  · rw [upper_of_nil h, h, constraining_nullableAny]
  · rw [upper_of_ne_nil h, constraining_constraining]

/-- There is always an upper bound. -/
theorem upper_ne_nil (declared : List TypeRef) : upper declared ≠ [] := by
  unfold upper
  split <;> simp_all

end KotlinTypes.Bounds
