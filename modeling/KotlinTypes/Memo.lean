/-!
# Memo tables

A memo table remembers the value that was first made for each key. The value
for a key is made at most once: `Memo.remember` takes the making as an action,
which runs if the key is new and is left alone otherwise.
-/

namespace KotlinTypes

/-- **A memo table** from keys to values. -/
structure Memo (κ υ : Type) where
  /-- The pairs of key and value, in the order in which the keys were first
  seen. Where a key had two pairs the earlier one would count. -/
  entries : List (κ × υ)

namespace Memo

variable {κ υ : Type}

/-- The memo table that remembers nothing. -/
def empty : Memo κ υ :=
  ⟨[]⟩

/-- How many keys are remembered. -/
def size (memo : Memo κ υ) : Nat :=
  memo.entries.length

/-- Whether nothing is remembered. -/
def isEmpty (memo : Memo κ υ) : Bool :=
  memo.entries.isEmpty

/-- The value remembered for a key. -/
def get? [DecidableEq κ] (memo : Memo κ υ) (key : κ) : Option υ :=
  memo.entries.lookup key

/-- The table with one more pair, for a key that is not remembered yet. -/
def add (memo : Memo κ υ) (key : κ) (value : υ) : Memo κ υ :=
  ⟨memo.entries ++ [(key, value)]⟩

/-- **The value for a key and the table afterwards.** If the key is new, `make`
runs and what it makes is remembered; if not, the remembered value is the
answer, `make` does not run, and the table stays as it is. -/
def remember [DecidableEq κ] {m : Type → Type} [Monad m] (memo : Memo κ υ) (key : κ)
    (make : m υ) : m (υ × Memo κ υ) :=
  match memo.get? key with
  | some value => pure (value, memo)
  | none => do
      let value ← make
      pure (value, memo.add key value)

@[simp] theorem get?_empty [DecidableEq κ] (key : κ) : (empty : Memo κ υ).get? key = none := rfl

@[simp] theorem size_empty : (empty : Memo κ υ).size = 0 := rfl

/-- **A pair is added** without touching the others. -/
theorem get?_add [DecidableEq κ] (memo : Memo κ υ) (key : κ) (value : υ) (other : κ) :
    (memo.add key value).get? other
      = (memo.get? other).or (if other = key then some value else none) := by
  rw [get?, add, List.lookup_append, List.lookup_cons, List.lookup_nil]
  by_cases h : other = key
  · rw [beq_iff_eq.mpr h, if_pos h]
    rfl
  · rw [beq_eq_false_iff_ne.mpr h, if_neg h]
    rfl

@[simp] theorem size_add (memo : Memo κ υ) (key : κ) (value : υ) :
    (memo.add key value).size = memo.size + 1 := by
  simp [size, add]

end Memo

end KotlinTypes
