/-!
# Ranges of code points

A character property is stored as a table of ranges. Letters often alternate
between a small and a capital form, so a range carries a step, and a run of
every second code point takes one row.
-/

namespace KotlinTypes

/-- **A range of code points**, taken at regular steps. -/
structure CodeRange where
  /-- The first code point of the range. -/
  first : Nat
  /-- The last code point of the range. -/
  last : Nat
  /-- The distance from one code point of the range to the next. -/
  step : Nat

namespace CodeRange

/-- Whether the code point of `c` is one of the range. -/
def contains (r : CodeRange) (c : Char) : Bool :=
  decide (r.first ≤ c.toNat) && decide (c.toNat ≤ r.last) && (c.toNat - r.first) % r.step == 0

/-- A range holds what lies between its ends and is reached by its steps. -/
theorem contains_iff {r : CodeRange} {c : Char} :
    r.contains c = true
      ↔ r.first ≤ c.toNat ∧ c.toNat ≤ r.last ∧ (c.toNat - r.first) % r.step = 0 := by
  rw [contains, Bool.and_eq_true, Bool.and_eq_true, decide_eq_true_iff, decide_eq_true_iff,
    beq_iff_eq, and_assoc]

/-- Whether some range of the table contains `c`. -/
def anyContains (table : List CodeRange) (c : Char) : Bool :=
  table.any (fun r => r.contains c)

/-- A table contains what one of its ranges contains. -/
theorem anyContains_of_mem {table : List CodeRange} {r : CodeRange} {c : Char}
    (hr : r ∈ table) (hc : r.contains c = true) : anyContains table c = true :=
  List.any_eq_true.mpr ⟨r, hr, hc⟩

end CodeRange

end KotlinTypes
