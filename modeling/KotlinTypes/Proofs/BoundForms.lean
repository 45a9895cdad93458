import KotlinTypes.TypeRef.Bounds

/-!
# The two forms of a list of bounds

Declared bounds are kept in no form of their own. They are completed to upper
bounds or cut down to written ones whenever someone asks, and a builder that is
given bounds in pieces does so after every piece, so that an `Any?` that was
put in for want of bounds is there when the next piece arrives.

It does no harm. Upper bounds depend on the constraining bounds and on nothing
else (`Bounds.upper_eq_upper_iff`), and neither form changes which bounds
constrain. The laws of the two forms all come from there: completing bounds
once more changes nothing, written bounds complete to what they came from, and
bounds may be completed before or after others are put next to them.
-/

namespace KotlinTypes.Bounds

variable {xs ys : List TypeRef}

/-! ## What constrains -/

/-- Where `Any?` is no bound, all bounds constrain. -/
theorem constraining_eq_self {bounds : List TypeRef} (h : .nullableAny ∉ bounds) :
    constraining bounds = bounds := by
  refine List.filter_eq_self.mpr (fun t ht => ?_)
  have hne : t ≠ .nullableAny := fun htop => h (htop ▸ ht)
  rw [TypeRef.isNullableAny, decide_eq_false hne, Bool.not_false]

/-- **Leaving out a lone `Any?` leaves out nothing that constrains.** -/
theorem constraining_written (xs : List TypeRef) :
    constraining (written xs) = constraining xs := by
  match xs with
  | [] => rfl
  | [only] =>
    show constraining (if only.isNullableAny then [] else [only]) = constraining [only]
    by_cases honly : only.isNullableAny = true
    · rw [if_pos honly, (TypeRef.isNullableAny_iff only).mp honly, constraining_nullableAny]
      rfl
    · rw [if_neg honly]
  | _ :: _ :: _ => rfl

/-! ## Upper bounds -/

/-- The upper bounds are the constraining ones, or `Any?` if none constrain. -/
theorem upper_eq_if (xs : List TypeRef) :
    upper xs = if constraining xs = [] then [.nullableAny] else constraining xs := by
  by_cases h : constraining xs = []
  · rw [if_pos h, upper_of_nil h]
  · rw [if_neg h, upper_of_ne_nil h]

/-- **Upper bounds tell which bounds constrain and nothing else.** -/
theorem upper_eq_upper_iff : upper xs = upper ys ↔ constraining xs = constraining ys := by
  constructor
  · intro h
    rw [← constraining_upper xs, h, constraining_upper]
  · intro h
    rw [upper_eq_if, upper_eq_if, h]

/-- Bounds may be completed before others are put behind them. -/
theorem upper_upper_append (xs ys : List TypeRef) : upper (upper xs ++ ys) = upper (xs ++ ys) := by
  rw [upper_eq_upper_iff, constraining_append, constraining_append, constraining_upper]

/-- Bounds may be completed before they are put behind others. -/
theorem upper_append_upper (xs ys : List TypeRef) : upper (xs ++ upper ys) = upper (xs ++ ys) := by
  rw [upper_eq_upper_iff, constraining_append, constraining_append, constraining_upper]

/-- **Completing after every piece is completing once.** However many pieces
the bounds come in, what completing put in on the way is gone in the end. -/
theorem foldl_upper_append (xs : List TypeRef) (pieces : List (List TypeRef)) :
    pieces.foldl (fun bounds piece => upper (bounds ++ piece)) (upper xs)
      = upper (xs ++ pieces.flatten) := by
  induction pieces generalizing xs with
  | nil =>
    rw [List.flatten_nil, List.append_nil]
    rfl
  | cons piece pieces ih =>
    rw [List.foldl_cons, upper_upper_append, ih, List.flatten_cons, List.append_assoc]

/-! ## Written bounds -/

/-- **Completing bounds is undone by leaving out what goes without saying.** -/
theorem written_upper (bounds : List TypeRef) : written (upper bounds) = constraining bounds := by
  by_cases hnil : constraining bounds = []
  · rw [upper_of_nil hnil, hnil]
    rfl
  · rw [upper_of_ne_nil hnil]
    match hbounds : constraining bounds with
    | [] => exact absurd hbounds hnil
    | [only] =>
      have honly : only ∈ constraining bounds := hbounds ▸ List.mem_singleton_self only
      have hcounts : only.isNullableAny = false := by simpa using (List.mem_filter.mp honly).2
      show (if only.isNullableAny then [] else [only]) = [only]
      rw [hcounts]
      rfl
    | _ :: _ :: _ => rfl

/-! ## The laws -/

/-- **The algebra of the two forms.** What is written of completed bounds are
the bounds other than `Any?`, in order and as often as they were given.
Completed bounds are those, or `Any?` alone if there are none. Completing is
idempotent, it undoes the leaving out of a lone `Any?`, whether or not the
bounds were complete before, and it absorbs what completing put into either
part of a list, or into any number of pieces one after the other. -/
theorem forms_of_bounds (xs ys : List TypeRef) :
    written (upper xs) = xs.filter (fun t => t ≠ .nullableAny)
      ∧ upper xs = (if xs.filter (fun t => t ≠ .nullableAny) = [] then [.nullableAny]
          else xs.filter (fun t => t ≠ .nullableAny))
      ∧ upper (upper xs) = upper xs
      ∧ upper (written xs) = upper xs
      ∧ upper (xs ++ ys) = upper (upper xs ++ ys)
      ∧ upper (xs ++ ys) = upper (xs ++ upper ys)
      ∧ ∀ pieces : List (List TypeRef),
        pieces.foldl (fun bounds piece => upper (bounds ++ piece)) (upper xs)
          = upper (xs ++ pieces.flatten) := by
  refine ⟨?_, ?_, ?_, ?_, (upper_upper_append xs ys).symm, (upper_append_upper xs ys).symm,
    foldl_upper_append xs⟩
  · rw [written_upper, constraining_eq_filter]
  · rw [← constraining_eq_filter]
    exact upper_eq_if xs
  · exact upper_eq_upper_iff.mpr (constraining_upper xs)
  · exact upper_eq_upper_iff.mpr (constraining_written xs)

end KotlinTypes.Bounds
