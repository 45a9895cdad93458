import KotlinTypes.Proofs.Remarks
import KotlinTypes.Proofs.Written

/-!
# Writing appends

Whatever the library writes, it writes at the end, and it would write the same
after any other text. A type of any depth leaves a printer with the text that
was there, then its own text, and the same style; so does an annotation, and a
list does the same with the texts that its items add
(`Printer.writing_appends`).

That the items add texts is up to whoever writes the list, since the writer of
the items is theirs. It takes no care, though. A writer that is **composed** of
what a printer can do and of what this library writes, of lists of such writers
too and as deep as one likes, appends (`Writer.Composed.appends`). Neither does
it matter what else is done while a list is written. The list of entries is a
case of this: its items note what there is to say of them, and it adds the text
of a render that notes nothing (`Generics.adds_angledM_narrate`).
-/

namespace KotlinTypes

/-- Annotations append. -/
theorem AnnotationUse.appends_write (a : AnnotationUse) : a.write.Appends :=
  Writer.appends_of_put (fun style => "@" ++ a.name.reference style) a.write_eq_put

/-! ## Composed writers -/

namespace Writer

/-- **A writer is composed** when it is put together from what a printer can do
and what can be written. It may look at the style, and not at the text so far. -/
inductive Composed : Writer → Prop where
  /-- Nothing is done. -/
  | nothing : Composed id
  /-- A text is put. -/
  | put (s : String) : Composed (fun p => p.put s)
  /-- A character is put. -/
  | putChar (c : Char) : Composed (fun p => p.putChar c)
  /-- A space is put. -/
  | space : Composed Printer.space
  /-- A type is written. -/
  | type (t : TypeRef) : Composed t.write
  /-- An annotation is written. -/
  | annotation (a : AnnotationUse) : Composed a.write
  /-- One writer comes after another. -/
  | andThen {v w : Writer} (hv : Composed v) (hw : Composed w) : Composed (fun p => w (v p))
  /-- The style decides on the writer. -/
  | styled {w : Style → Writer} (h : ∀ style, Composed (w style)) : Composed (fun p => w p.style p)
  /-- A separated list is written. -/
  | separated {α : Type} (separator : String) {items : List α} {item : α → Writer}
      (h : ∀ x ∈ items, Composed (item x)) : Composed (Printer.separated separator items item)
  /-- A list in angle brackets is written. -/
  | angled {α : Type} {items : List α} {item : α → Writer}
      (h : ∀ x ∈ items, Composed (item x)) : Composed (Printer.angled items item)

/-- One writer after another appends if both do. -/
theorem Appends.andThen {v w : Writer} (hv : v.Appends) (hw : w.Appends) :
    Appends (fun p => w (v p)) := by
  refine appends_of_put (fun style => v.textIn style ++ w.textIn style) (fun p => ?_)
  rw [hv p, hw, Printer.put_put, Printer.style_put]

/-- **Composed writers append**, since nothing they are composed of looks at the
text so far. -/
theorem Composed.appends {w : Writer} (h : w.Composed) : w.Appends := by
  induction h with
  | nothing => exact appends_of_put (fun _ => "") (fun p => (Printer.put_empty p).symm)
  | put s => exact appends_of_put (fun _ => s) (fun _ => rfl)
  | putChar c => exact appends_of_put (fun _ => .singleton c) (Printer.putChar_eq_put · c)
  | space => exact appends_of_put (fun _ => " ") Printer.space_eq_put
  | type t => exact t.appends_write
  | annotation a => exact a.appends_write
  | andThen _ _ hv hw => exact hv.andThen hw
  | @styled w _ ih =>
    exact appends_of_put (fun style => (w style).textIn style) (fun p => ih p.style p)
  | @separated _ separator items item _ ih =>
    exact appends_of_put
      (fun style => separator.intercalate (items.map (fun x => (item x).textIn style)))
      (Printer.separated_eq_put ih separator)
  | @angled _ items item _ ih =>
    exact appends_of_put
      (fun style => Printer.angledText (items.map (fun x => (item x).textIn style)))
      (Printer.angled_eq_put ih)

end Writer

/-! ## Entries that note -/

/-- An entry that is narrated adds the text of the entry. -/
theorem TypeParameter.adds_narrate (v : TypeParameter TypeRef) (style : Style) :
    WriterM.Adds v.narrate style (v.headText style ++ v.tailText style) := by
  intro before
  rw [narrate_eq, writeEntry_eq_put]
  exact congrArg (Logged.mk _) (List.append_nil v.remarks).symm

/-- **The list of entries adds its text whatever is noted on the way.** -/
theorem Generics.adds_angledM_narrate (parameters : List (TypeParameter TypeRef))
    (style : Style) :
    (Printer.angledM parameters TypeParameter.narrate).Adds style
      (render parameters style).parameterList := by
  rw [parameterList_render]
  cases parameters with
  | nil => exact Printer.adds_angledM_nil style _
  | cons v rest =>
    exact Printer.adds_angledM (fun w _ => w.adds_narrate style) (List.cons_ne_nil v rest)

/-! ## Whatever is there -/

namespace Printer

/-- **Writing appends.** In every style, a type and an annotation add their
texts to whatever is there, and the style stays. Where the writer of its items
adds a text for each of them, a separated list adds these texts with the
separator between any two neighbours, even if there is nothing to see of the
two, and a list in angle brackets adds nothing without items and otherwise the
texts with commas between and brackets around them. The same holds of items
that are written with effects. And a writer that is composed of such steps,
lists within lists included, adds its text. -/
theorem writing_appends (style : Style) :
    (∀ t : TypeRef, Writer.Adds t.write style (t.textIn style))
      ∧ (∀ a : AnnotationUse, a.write.Adds style (a.textIn style))
      ∧ (∀ {α : Type} {items : List α} {item : α → Writer} {text : α → String},
        (∀ x ∈ items, (item x).Adds style (text x)) →
          (∀ separator, (separated separator items item).Adds style
            (separator.intercalate (items.map text)))
          ∧ (∀ separator x y {earlier later : List α}, items = earlier ++ x :: y :: later →
            (separated separator items item).Adds style
              (separator.intercalate (earlier.map text ++ [text x]) ++ separator
                ++ separator.intercalate (text y :: later.map text)))
          ∧ (items = [] → (angled items item).Adds style "")
          ∧ (items ≠ [] → (angled items item).Adds style
            ("<" ++ ", ".intercalate (items.map text) ++ ">")))
      ∧ (∀ {m : Type → Type} [Monad m] [LawfulMonad m] {α : Type} {items : List α}
        {item : α → WriterM m} {text : α → String},
        (∀ x ∈ items, (item x).Adds style (text x)) →
          (∀ separator, (separatedM separator items item).Adds style
            (separator.intercalate (items.map text)))
          ∧ (items = [] → (angledM items item).Adds style "")
          ∧ (items ≠ [] → (angledM items item).Adds style
            ("<" ++ ", ".intercalate (items.map text) ++ ">")))
      ∧ ∀ {w : Writer}, w.Composed → w.Adds style (w.textIn style) := by
  refine ⟨fun t => t.appends_write.adds style, fun a => a.appends_write.adds style,
    fun h => ⟨adds_separated h, ?_, ?_, adds_angled h⟩,
    fun h => ⟨adds_separatedM h, ?_, adds_angledM h⟩, fun hw => hw.appends.adds style⟩
  · intro separator x y earlier later heq
    exact adds_separated_append h separator heq
  · rintro rfl
    exact adds_angled_nil style _
  · rintro rfl
    exact adds_angledM_nil style _

/-- Three lists of types, the second one empty. -/
def groups : List (List TypeRef) :=
  [[.string, .int], [], [.unit]]

/-- Writes a list of types in angle brackets. -/
def writeGroup (types : List TypeRef) : Writer :=
  angled types TypeRef.write

/-- The same, counting the lists. -/
def writeGroupCounting (types : List TypeRef) : WriterM (StateM Nat) := fun p => do
  modify (· + 1)
  return writeGroup types p

/-- The text of a list of types in angle brackets. -/
def groupText (types : List TypeRef) : String :=
  angledText (types.map (fun t => t.textIn .relative))

/-- The list of the three is a list of lists, and has its separators on both
sides of the one that leaves nothing, also if somebody counts. -/
theorem writing_appends_groups :
    (∀ types ∈ groups, (writeGroup types).Adds .relative (groupText types))
      ∧ groups = [] ++ [.string, .int] :: [] :: [[.unit]]
      ∧ separated " | " groups writeGroup ⟨"fun ", .relative⟩
        = ⟨"fun <String, Int> |  | <Unit>", .relative⟩
      ∧ (∀ types ∈ groups, (writeGroupCounting types).Adds .relative (groupText types))
      ∧ (separatedM " | " groups writeGroupCounting ⟨"fun ", .relative⟩).run 0
        = (⟨"fun <String, Int> |  | <Unit>", .relative⟩, 3)
      ∧ Writer.Composed (separated " | " groups writeGroup)
      ∧ separated " | " groups writeGroup ⟨"fun ", .relative⟩
        = ⟨"fun " ++ Writer.textIn (separated " | " groups writeGroup) .relative, .relative⟩ := by
  obtain ⟨htypes, -, hlists, heffects, hcomposed⟩ := writing_appends .relative
  have hgroup : ∀ types ∈ groups, (writeGroup types).Adds .relative (groupText types) := by
    intro types _
    obtain ⟨-, -, hnil, hcons⟩ := hlists (fun t (_ : t ∈ types) => htypes t)
    cases types with
    | nil => exact hnil rfl
    | cons t rest => exact hcons (List.cons_ne_nil t rest)
  have hcounting : ∀ types ∈ groups,
      (writeGroupCounting types).Adds .relative (groupText types) := by
    intro types htypes
    exact WriterM.adds_stateM_iff.mpr (fun before _ => hgroup types htypes before)
  have hthree : groups = [] ++ [.string, .int] :: [] :: [[.unit]] := rfl
  have hnested : Writer.Composed (separated " | " groups writeGroup) :=
    .separated " | " (fun _ _ => .angled (fun t _ => .type t))
  have htext : "fun " ++ " | ".intercalate (groups.map groupText)
      = "fun <String, Int> |  | <Unit>" := by decide
  refine ⟨hgroup, hthree, ?_, hcounting, Prod.ext ?_ rfl, hnested, hcomposed hnested "fun "⟩
  · obtain ⟨-, hneighbours, -, -⟩ := hlists hgroup
    exact (hneighbours " | " _ _ hthree "fun ").trans
      (congrArg (Printer.mk · .relative) (by decide))
  · obtain ⟨hjoined, -, -⟩ := heffects hcounting
    rw [← htext]
    exact WriterM.adds_stateM_iff.mp (hjoined " | ") "fun " 0

end Printer

end KotlinTypes
