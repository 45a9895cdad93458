import KotlinTypes.Proofs.Markings
import KotlinTypes.Proofs.Written

/-!
# How marks are written

Six writers put the marks of a type into its text, one for each kind, and they
do not share the order in which they go about it: the question mark of a class
is written last, that of a parameter is chosen together with `& Any`, and a
function type needs parentheses, the first of which stands before the keyword
`suspend`. What comes out is one layout all the same. The text of a type is its
annotations, a space after each, and then the text of its core with what the
question mark takes (`TypeRef.textIn_eq_core`).

The layout would not fit a parameter that is definite and nullable at once, nor
a projection with a question mark. Neither is a type.

So annotations that are added later stand after the earlier ones and before
everything else, and the question mark of a function type has the whole of it
in parentheses before it, the result included.
-/

namespace KotlinTypes

namespace AnnotationUse

/-- Each annotation is written as an at sign and the reference to its class, with
a space after it. -/
theorem textsIn_eq_join (annotations : List AnnotationUse) (style : Style) :
    textsIn annotations style
      = String.join (annotations.map (fun a => "@" ++ a.name.reference style ++ " ")) := by
  unfold textsIn
  simp only [textIn_eq]

/-- Further annotations are written after the first ones. -/
theorem textsIn_append (first second : List AnnotationUse) (style : Style) :
    textsIn (first ++ second) style = textsIn first style ++ textsIn second style := by
  unfold textsIn
  rw [List.map_append, String.join_append]

end AnnotationUse

namespace TypeRef

/-- **The text of a core with the question mark** of the type, if it is
nullable. A function type has its core in parentheses then, since the question
mark would otherwise be that of its result. -/
def questioned (t : TypeRef) (core : String) : String :=
  if t.isNullable then
    match t with
    | .ofFunction _ => "(" ++ core ++ ")?"
    | _ => core ++ "?"
  else core

/-- Annotations have no say in the question mark. -/
theorem questioned_noted (t : TypeRef) (annotations : List AnnotationUse) (core : String) :
    (t.noted annotations).questioned core = t.questioned core := by
  cases t <;> rfl

/-- **The text of a type is that of its core with its marks**: first the
annotations, and then the core with the question mark. -/
theorem textIn_eq_core (t : TypeRef) (style : Style) :
    t.textIn style
      = AnnotationUse.textsIn t.annotations style ++ t.questioned (t.core.textIn style) := by
  have hquestion : ∀ (s : String) (nullable : Bool), s ++ Printer.questionText nullable
      = if nullable then s ++ Printer.questionText false ++ "?"
        else s ++ Printer.questionText false := by
    intro s nullable
    cases nullable with
    | true => rw [Printer.questionText, Printer.questionText]; simp
    | false => rfl
  rw [textIn_eq_textOver, textIn_eq_textOver t.core]
  unfold textOver
  rw [annotations_core, AnnotationUse.textsIn_nil, String.empty_append]
  refine congrArg (AnnotationUse.textsIn t.annotations style ++ ·) ?_
  cases t with
  | ofClass c => exact hquestion _ c.nullable
  | ofApplied a => exact hquestion _ a.nullable
  | ofParameter v =>
    obtain ⟨name, bounds, variance, nullness, reified, annotations⟩ := v
    cases nullness with
    | plain => rfl
    | nullable => exact hquestion name true
    | definite => rfl
  | ofProjected w => rfl
  | ofFunction f =>
    obtain ⟨receiver, parameters, result, suspending, nullable, annotations⟩ := f
    cases nullable with
    | true => exact FunctionType.bodyText_nullable ..
    | false => rfl
  | dynamic => rfl

/-- The core of a function type ends with its result, after the arrow. -/
theorem exists_textIn_core_ofFunction (f : FunctionType TypeRef) (style : Style) :
    ∃ front, (ofFunction f).core.textIn style = front ++ ") -> " ++ f.result.textIn style := by
  rw [textIn_eq_textOver]
  unfold textOver
  rw [annotations_core, AnnotationUse.textsIn_nil, String.empty_append]
  show ∃ front, FunctionType.bodyText _ _ = _
  unfold FunctionType.bodyText
  exact ⟨_, String.append_empty⟩

/-- **All kinds of types have one layout.** The text of a type is an at sign, a
reference and a space for each of its annotations, in order, and then the text
of its core: as it is, with a question mark after it, or, for a nullable
function type, in parentheses with the question mark after them. The core is
the type without marks, which are put back to make the type again. So
annotations that are added stand after those that are there and before the
rest, and the question mark of a function type comes after parentheses that
hold its result too. -/
theorem textIn_layout (t : TypeRef) (style : Style) :
    t.textIn style
        = String.join (t.annotations.map (fun a => "@" ++ a.name.reference style ++ " "))
          ++ t.questioned (t.core.textIn style)
      ∧ (t.core.annotations = [] ∧ t.core.isNullable = false
        ∧ (t.core.marked t.isNullable).noted t.annotations = t)
      ∧ (∀ annotations u, t.annotate annotations = .ok u →
        u.textIn style = AnnotationUse.textsIn t.annotations style
          ++ (AnnotationUse.textsIn annotations style ++ t.questioned (t.core.textIn style)))
      ∧ ∀ f, t = .ofFunction f → f.nullable = true →
        ∃ front, t.textIn style = AnnotationUse.textsIn t.annotations style
          ++ ("(" ++ (front ++ ") -> " ++ f.result.textIn style) ++ ")?") := by
  refine ⟨?_, ⟨t.annotations_core, t.isNullable_core, t.noted_marked_core⟩,
    fun annotations u hu => ?_, fun f hf hnullable => ?_⟩
  · rw [← AnnotationUse.textsIn_eq_join]
    exact t.textIn_eq_core style
  · obtain ⟨htakes, rfl⟩ := (t.guarded_annotate annotations).eq_ok_iff.mp hu
    rw [textIn_eq_core, annotations_noted htakes, core_noted, questioned_noted,
      AnnotationUse.textsIn_append, String.append_assoc]
  · subst hf
    obtain ⟨front, hfront⟩ := exists_textIn_core_ofFunction f style
    refine ⟨front, ?_⟩
    rw [textIn_eq_core, hfront]
    show _ ++ (if f.nullable then "(" ++ _ ++ ")?" else _) = _
    rw [hnullable, if_pos rfl]

/-- A task that may suspend or be `null`, and is deprecated. -/
def deprecatedTask : FunctionType TypeRef :=
  ⟨none, [], .unit, true, true, [.of (.kotlin "Deprecated")]⟩

/-- The same task with one more annotation. -/
theorem textIn_layout_deprecatedTask :
    (ofFunction deprecatedTask).annotate [.of (.topLevel "demo" "Marker")]
        = .ok ((ofFunction deprecatedTask).noted [.of (.topLevel "demo" "Marker")])
      ∧ ((ofFunction deprecatedTask).noted [.of (.topLevel "demo" "Marker")]).textIn .standard
        = "@Deprecated @demo.Marker (suspend () -> Unit)?"
      ∧ deprecatedTask.nullable = true
      ∧ ∃ front, (ofFunction deprecatedTask).textIn .standard
        = "@Deprecated " ++ ("(" ++ (front ++ ") -> " ++ "Unit") ++ ")?") := by
  have hannotate : (ofFunction deprecatedTask).annotate [.of (.topLevel "demo" "Marker")]
      = .ok ((ofFunction deprecatedTask).noted [.of (.topLevel "demo" "Marker")]) := rfl
  obtain ⟨-, -, hadded, hresult⟩ := (ofFunction deprecatedTask).textIn_layout .standard
  exact ⟨hannotate, (hadded _ _ hannotate).trans (by decide), rfl, hresult deprecatedTask rfl rfl⟩

end TypeRef

end KotlinTypes
