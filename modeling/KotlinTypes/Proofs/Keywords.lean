import Mathlib.Data.Set.Operations
import KotlinTypes.Json.Settings

/-!
# The tables of modifier keywords

A modifier has its keyword from one table, and a keyword has its modifier from
another. A third spelling, the name in exchanged data, is in no table at all:
it is the identifier in small letters, and to read it is to search all
modifiers for it. Nothing in the definitions keeps the three together. That
identifiers in small letters are keywords is a fact about Kotlin's vocabulary,
and it takes the identifiers `In`, `Out`, `Enum`, `Annotation`, `Fun` and
`Infix` to be chosen for it.

They do agree, on every text and not only on keywords
(`Modifier.keyword_tables_agree`). A text is read as a modifier if and only if
it is the keyword of that modifier, letter for letter, by either of the two
ways of reading.
-/

namespace KotlinTypes.Modifier

variable {s : String} {m : Modifier}

/-! ## Reading and writing keywords -/

/-- Every keyword is read as its modifier. -/
@[simp] theorem ofKeyword?_keyword (m : Modifier) : ofKeyword? m.keyword = some m := by
  cases m <;> rfl

/-- **Only the keyword of a modifier is read as that modifier.** -/
theorem keyword_of_ofKeyword? (h : ofKeyword? s = some m) : m.keyword = s := by
  unfold ofKeyword? at h
  -- one case for every row of the table; in the last one nothing was read
  split at h <;> cases h <;> rfl

/-- The two tables of keywords agree. -/
theorem ofKeyword?_eq_some_iff : ofKeyword? s = some m ↔ m.keyword = s :=
  ⟨keyword_of_ofKeyword?, fun h => h ▸ ofKeyword?_keyword m⟩

/-- **No two modifiers share a keyword.** -/
theorem keyword_injective : Function.Injective keyword := by
  intro m m' h
  have hread := ofKeyword?_keyword m
  rw [h, ofKeyword?_keyword] at hread
  exact (Option.some.inj hread).symm

/-! ## Names in exchanged data -/

/-- **The name in exchanged data is the keyword.** -/
theorem dataName_eq_keyword (m : Modifier) : m.dataName = m.keyword := by
  cases m <;> rfl

/-- A modifier is exchanged as its keyword. -/
theorem toJson_eq (m : Modifier) : m.toJson = .string m.keyword :=
  congrArg Json.string m.dataName_eq_keyword

/-- Only the keyword of a modifier is exchanged for that modifier. -/
theorem ofJson?_string_eq_some_iff : ofJson? (.string s) = some m ↔ m.keyword = s := by
  show all.find? (fun m => m.dataName == s) = some m ↔ _
  have hfound : ∀ m', all.find? (fun m => m.dataName == s) = some m' → m'.keyword = s := by
    intro m' h
    have hname := List.find?_some h
    rw [← dataName_eq_keyword]
    exact beq_iff_eq.mp hname
  refine ⟨hfound m, fun h => ?_⟩
  have hname : (m.dataName == s) = true := by rw [dataName_eq_keyword, h, beq_self_eq_true]
  have hsome : (all.find? (fun m => m.dataName == s)).isSome = true :=
    List.find?_isSome.mpr ⟨m, mem_all m, hname⟩
  obtain ⟨m', hm'⟩ := Option.isSome_iff_exists.mp hsome
  -- the first one found has the same keyword, so it is no other modifier
  rw [hm', keyword_injective ((hfound m' hm').trans h.symm)]

/-- A reader that reads nothing but keywords refuses all other texts. -/
theorem eq_none_iff_of_forall {read : Option Modifier}
    (h : ∀ m, read = some m ↔ m.keyword = s) : read = none ↔ s ∉ Set.range keyword := by
  rw [Option.eq_none_iff_forall_ne_some]
  exact ⟨fun hnone ⟨m, hm⟩ => hnone m ((h m).mpr hm), fun hs m hm => hs ⟨m, (h m).mp hm⟩⟩

/-! ## Agreement -/

/-- **All ways between modifiers and texts agree on every text.** A modifier
has one text, its keyword, both where it is shown and where a constant text is
wanted. A text is read as a modifier, as a keyword or as a name in exchanged
data, if and only if it is that keyword, and the keyword is what the modifier is
exchanged as. Every other text is refused by both readers, and no two modifiers
have the same one. -/
theorem keyword_tables_agree (s : String) :
    (∀ m : Modifier,
        (ofKeyword? s = some m ↔ m.keyword = s)
          ∧ (ofJson? (.string s) = some m ↔ m.keyword = s)
          ∧ (m.toJson = .string s ↔ m.keyword = s))
      ∧ (ofKeyword? s = none ↔ s ∉ Set.range keyword)
      ∧ (ofJson? (.string s) = none ↔ s ∉ Set.range keyword)
      ∧ Function.Injective keyword := by
  refine ⟨fun m => ⟨ofKeyword?_eq_some_iff, ofJson?_string_eq_some_iff, ?_⟩,
    eq_none_iff_of_forall (fun _ => ofKeyword?_eq_some_iff),
    eq_none_iff_of_forall (fun _ => ofJson?_string_eq_some_iff), keyword_injective⟩
  rw [toJson_eq, Json.string.injEq]

/-- A longer word, a capital and a blank each make another text of a keyword. -/
example : ofKeyword? "inn" = none ∧ ofKeyword? "In" = none ∧ ofKeyword? " in" = none := by decide

end KotlinTypes.Modifier
