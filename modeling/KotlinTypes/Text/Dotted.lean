/-!
# Dotted text

A qualified name is written as its segments with a dot between any two of
them. `Dotted.join` writes the segments and `Dotted.segments` takes a text
apart at every dot. `Dotted.join_segments` says that nothing is lost in taking
apart, and `Dotted.segments_join` that segments without dots come back.
-/

namespace KotlinTypes.Dotted

/-- The segments with a dot between any two of them. -/
def join (segments : List String) : String :=
  ".".intercalate segments

/-- **The segments of a text**: what stands before, between and after its
dots. A text without dots is its own only segment, the empty text included. -/
def segments (text : String) : List String :=
  (text.toList.splitOn '.').map String.ofList

@[simp] theorem join_nil : join [] = "" := String.intercalate_nil

@[simp] theorem join_singleton (s : String) : join [s] = s := String.intercalate_singleton

theorem join_cons_cons (s t : String) (rest : List String) :
    join (s :: t :: rest) = s ++ "." ++ join (t :: rest) :=
  String.intercalate_cons_cons

/-- The characters of joined segments. -/
theorem toList_join (segments : List String) :
    (join segments).toList = ['.'].intercalate (segments.map String.toList) :=
  String.toList_intercalate

/-- A text has at least one segment. -/
theorem segments_ne_nil (text : String) : segments text ≠ [] := by
  simp [segments, List.splitOn_ne_nil]

/-- **Nothing is lost**: the segments of a text, joined, are the text. -/
@[simp] theorem join_segments (text : String) : join (segments text) = text := by
  apply String.toList_inj.mp
  simp [toList_join, segments, Function.comp_def, List.intercalate_splitOn]

/-- **Segments come back** when none of them holds a dot. -/
theorem segments_join {names : List String} (ne : names ≠ [])
    (dotless : ∀ s ∈ names, '.' ∉ s.toList) : segments (join names) = names := by
  rw [segments, toList_join, List.splitOn_intercalate]
  · simp [Function.comp_def]
  · simpa using dotless
  · simpa using ne

end KotlinTypes.Dotted
