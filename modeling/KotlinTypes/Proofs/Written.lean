import KotlinTypes.Generics
import KotlinTypes.Proofs.Adding
import KotlinTypes.Proofs.Parts

/-!
# What writers add

A writer takes a printer and returns one, so nothing in its type keeps it from
looking at the text so far, or from tearing it up. The writers of this library
do neither. Each of them **appends**: it puts a text that depends on the style
alone after whatever is there (`Writer.Appends`), and that text is the one it
leaves on an empty printer. In other words it adds that text in every style
(`Writer.appends_iff`).

So the text of a type is an expression over the texts of its parts
(`TypeRef.textIn_eq_textOver`), and the generics of a declaration are lists of
such texts (`Generics.parameterList_render`, `Generics.constraints_render`).
What is said of texts after this module is said without a printer.
-/

namespace KotlinTypes

/-- **A writer appends** when all it does is to put its text after what is
there. -/
def Writer.Appends (w : Writer) : Prop :=
  ∀ p : Printer, w p = p.put (w.textIn p.style)

/-- **Appending is adding** one text in every style. -/
theorem Writer.appends_iff {w : Writer} :
    w.Appends ↔ ∀ style, w.Adds style (w.textIn style) :=
  ⟨fun h style before => h ⟨before, style⟩, fun h p => h p.style p.text⟩

/-- A writer that appends adds its text. -/
theorem Writer.Appends.adds {w : Writer} (h : w.Appends) (style : Style) :
    w.Adds style (w.textIn style) :=
  Writer.appends_iff.mp h style

/-- A writer known by what it puts: the text it adds. -/
theorem Writer.textIn_of_put {w : Writer} (text : Style → String)
    (h : ∀ p : Printer, w p = p.put (text p.style)) (style : Style) :
    w.textIn style = text style := by
  unfold Writer.textIn
  rw [h, Printer.text_put]
  exact String.empty_append

/-- A writer known by what it puts appends. -/
theorem Writer.appends_of_put {w : Writer} (text : Style → String)
    (h : ∀ p : Printer, w p = p.put (text p.style)) : w.Appends := by
  intro p
  rw [h, Writer.textIn_of_put text h]

namespace Printer

/-! ## Lists -/

variable {α : Type} {items : List α} {item : α → Writer}

/-- **A separated list puts the texts of its items**, with the separator
between any two. -/
theorem separated_eq_put (h : ∀ x ∈ items, (item x).Appends) (separator : String) (p : Printer) :
    separated separator items item p
      = p.put (separator.intercalate (items.map (fun x => (item x).textIn p.style))) :=
  adds_separated (fun x hx => (h x hx).adds p.style) separator p.text

/-- The text of a list in angle brackets over the texts of its items. -/
def angledText (texts : List String) : String :=
  if texts = [] then "" else "<" ++ ", ".intercalate texts ++ ">"

theorem angledText_of_ne_nil {texts : List String} (h : texts ≠ []) :
    angledText texts = "<" ++ ", ".intercalate texts ++ ">" :=
  if_neg h

/-- **A list in angle brackets puts the texts of its items**, commas between
them and brackets around them, and nothing at all without items. -/
theorem angled_eq_put (h : ∀ x ∈ items, (item x).Appends) (p : Printer) :
    angled items item p = p.put (angledText (items.map (fun x => (item x).textIn p.style))) := by
  by_cases hne : items = []
  · rw [hne]
    exact (put_empty p).symm
  · rw [angledText_of_ne_nil (mt List.map_eq_nil_iff.mp hne)]
    exact adds_angled (fun x hx => (h x hx).adds p.style) hne p.text

/-- The text of a separated list. -/
theorem textIn_separated (h : ∀ x ∈ items, (item x).Appends) (separator : String)
    (style : Style) :
    Writer.textIn (separated separator items item) style
      = separator.intercalate (items.map (fun x => (item x).textIn style)) :=
  Writer.textIn_of_put
    (fun s => separator.intercalate (items.map (fun x => (item x).textIn s)))
    (separated_eq_put h separator) style

/-- The text of a list in angle brackets. -/
theorem textIn_angled (h : ∀ x ∈ items, (item x).Appends) (style : Style) :
    Writer.textIn (angled items item) style
      = angledText (items.map (fun x => (item x).textIn style)) :=
  Writer.textIn_of_put (fun s => angledText (items.map (fun x => (item x).textIn s)))
    (angled_eq_put h) style

/-- The question mark of a nullable type, as text. -/
def questionText (nullable : Bool) : String :=
  if nullable then "?" else ""

theorem questionMark_eq_put (nullable : Bool) (p : Printer) :
    questionMark nullable p = p.put (questionText nullable) := by
  cases nullable with
  | true => exact putChar_eq_put p '?'
  | false => exact (put_empty p).symm

end Printer

/-! ## Names and annotations -/

/-- A class of the package `kotlin` is referred to by its own name in every
style. -/
theorem QualifiedName.reference_kotlin (name : String) (style : Style) :
    (topLevel "kotlin" name).reference style = name := by
  have himported : (topLevel "kotlin" name).isImportedByDefault = true := rfl
  unfold reference
  rw [himported, Bool.or_true, if_pos rfl]
  exact Dotted.join_singleton name

namespace AnnotationUse

/-- **The texts of annotations**, a space after each of them. -/
def textsIn (annotations : List AnnotationUse) (style : Style) : String :=
  String.join (annotations.map (fun a => a.textIn style ++ " "))

@[simp] theorem textsIn_nil (style : Style) : textsIn [] style = "" :=
  String.join_nil

theorem textsIn_cons (a : AnnotationUse) (annotations : List AnnotationUse) (style : Style) :
    textsIn (a :: annotations) style = a.textIn style ++ " " ++ textsIn annotations style :=
  String.join_cons

theorem write_eq_put (a : AnnotationUse) (p : Printer) :
    a.write p = p.put ("@" ++ a.name.reference p.style) := by
  show (p.putChar '@').put (a.name.reference p.style) = _
  rw [Printer.putChar_eq_put, Printer.put_put]
  rfl

/-- The text of an annotation is an at sign and the reference to its class. -/
theorem textIn_eq (a : AnnotationUse) (style : Style) :
    a.textIn style = "@" ++ a.name.reference style :=
  Writer.textIn_of_put (fun s => "@" ++ a.name.reference s) a.write_eq_put style

/-- **Annotations put their texts.** -/
theorem writeAll_eq_put (annotations : List AnnotationUse) (p : Printer) :
    writeAll annotations p = p.put (textsIn annotations p.style) := by
  induction annotations generalizing p with
  | nil => exact (Printer.put_empty p).symm
  | cons a rest ih =>
    show writeAll rest ((a.write p).space) = _
    rw [ih, Printer.space_eq_put, write_eq_put, textsIn_cons, textIn_eq]
    simp only [Printer.put_put, Printer.style_put]

end AnnotationUse

/-! ## One kind at a time

Each kind puts an expression over the texts of its parts as soon as its parts
append. -/

/-- What stands after the name in a reference to a type parameter. -/
def Nullness.suffix : Nullness → String
  | .plain => ""
  | .nullable => "?"
  | .definite => " & Any"

theorem ClassRef.write_eq_put (c : ClassRef) (p : Printer) :
    c.write p = p.put (AnnotationUse.textsIn c.annotations p.style ++ c.name.reference p.style
      ++ Printer.questionText c.nullable) := by
  show Printer.questionMark c.nullable ((AnnotationUse.writeAll c.annotations p).put _) = _
  rw [AnnotationUse.writeAll_eq_put, Printer.questionMark_eq_put]
  simp only [Printer.put_put, Printer.style_put]

theorem TypeParameter.write_eq_put {τ : Type} (v : TypeParameter τ) (p : Printer) :
    v.write p = p.put (AnnotationUse.textsIn v.annotations p.style ++ v.name
      ++ v.nullness.suffix) := by
  unfold TypeParameter.write
  rw [AnnotationUse.writeAll_eq_put]
  cases v.nullness with
  | plain =>
    show (p.put _).put v.name = _
    rw [Printer.put_put, Nullness.suffix, String.append_empty]
  | nullable =>
    show ((p.put _).put v.name).putChar '?' = _
    rw [Printer.putChar_eq_put, Printer.put_put, Printer.put_put, ← String.append_assoc]
    rfl
  | definite =>
    show ClassRef.write (.kotlin "Any") (((p.put _).put v.name).put " & ") = _
    rw [ClassRef.write_eq_put]
    simp only [Printer.put_put, Printer.style_put, String.append_assoc]
    show p.put (_ ++ (_ ++ (" & " ++ (_ ++
      ((QualifiedName.topLevel "kotlin" "Any").reference p.style ++ _))))) = _
    rw [QualifiedName.reference_kotlin]
    rfl

theorem Applied.write_eq_put {a : Applied Writer}
    (h : ∀ w ∈ a.arguments, Writer.Appends (id w)) (p : Printer) :
    a.write p = p.put (AnnotationUse.textsIn a.annotations p.style ++ a.base.reference p.style
      ++ Printer.angledText (a.arguments.map (fun w => w.textIn p.style))
      ++ Printer.questionText a.nullable) := by
  show Printer.questionMark a.nullable
    (Printer.angled a.arguments id ((AnnotationUse.writeAll a.annotations p).put _)) = _
  rw [AnnotationUse.writeAll_eq_put, Printer.angled_eq_put h, Printer.questionMark_eq_put]
  simp only [Printer.put_put, Printer.style_put, id]

/-- The text of what a projection lets through, after its annotations. -/
def Projection.text : Projection String → String
  | .star => "*"
  | .producer type => "out " ++ type
  | .consumer type => "in " ++ type

/-- The same projection of other types. -/
def Projection.map {τ υ : Type} (f : τ → υ) : Projection τ → Projection υ
  | .star => .star
  | .producer type => .producer (f type)
  | .consumer type => .consumer (f type)

theorem Projected.write_eq_put {w : Projected Writer}
    (h : ∀ t, w.projection.type? = some t → t.Appends) (p : Printer) :
    w.write p = p.put (AnnotationUse.textsIn w.annotations p.style
      ++ (w.projection.map (fun t => t.textIn p.style)).text) := by
  unfold Projected.write
  rw [AnnotationUse.writeAll_eq_put]
  obtain ⟨projection, annotations⟩ := w
  cases projection with
  | star => exact (Printer.putChar_eq_put _ '*').trans (Printer.put_put ..)
  | producer type =>
    show type ((p.put _).put "out ") = _
    rw [h type rfl]
    simp only [Printer.put_put, Printer.style_put, String.append_assoc]
    rfl
  | consumer type =>
    show type ((p.put _).put "in ") = _
    rw [h type rfl]
    simp only [Printer.put_put, Printer.style_put, String.append_assoc]
    rfl

/-- The text of a receiver with the dot after it, in parentheses where
`enclosed` says so. -/
def FunctionType.receiverText (enclosed : Bool) : Option String → String
  | none => ""
  | some receiver => if enclosed then "(" ++ receiver ++ ")." else receiver ++ "."

/-- **The text of a function type** after its annotations, over the texts of
its parts. -/
def FunctionType.bodyText (f : FunctionType String) (enclosed : Bool) : String :=
  (if f.nullable then "(" else "") ++ (if f.suspending then "suspend " else "")
    ++ receiverText enclosed f.receiver ++ "(" ++ ", ".intercalate f.parameters ++ ") -> "
    ++ f.result ++ (if f.nullable then ")?" else "")

section

variable (receiver : Option String) (parameters : List String) (result : String)
  (annotations : List AnnotationUse) (enclosed : Bool)

/-- The body of a nullable function type is that of the same one in
parentheses. -/
theorem FunctionType.bodyText_nullable (suspending : Bool) :
    bodyText ⟨receiver, parameters, result, suspending, true, annotations⟩ enclosed
      = "(" ++ (bodyText ⟨receiver, parameters, result, suspending, false, annotations⟩ enclosed
          ++ ")?") := by
  unfold bodyText
  simp [String.append_assoc]

/-- The body of a suspending function type is that of the same one after the
keyword. -/
theorem FunctionType.bodyText_suspending :
    bodyText ⟨receiver, parameters, result, true, false, annotations⟩ enclosed
      = "suspend "
          ++ bodyText ⟨receiver, parameters, result, false, false, annotations⟩ enclosed := by
  unfold bodyText
  simp [String.append_assoc]

/-- The body of a function type that is neither: its receiver and its
signature. -/
theorem FunctionType.bodyText_plain :
    bodyText ⟨receiver, parameters, result, false, false, annotations⟩ enclosed
      = receiverText enclosed receiver
          ++ ("(" ++ (", ".intercalate parameters ++ (") -> " ++ result))) := by
  unfold bodyText
  simp [String.append_assoc]

end

/-- The same function type over other types. -/
def FunctionType.map {τ υ : Type} (f : FunctionType τ) (g : τ → υ) : FunctionType υ where
  receiver := f.receiver.map g
  parameters := f.parameters.map g
  result := g f.result
  suspending := f.suspending
  nullable := f.nullable
  annotations := f.annotations

theorem FunctionType.write_eq_put {f : FunctionType Writer} (enclosed : Bool)
    (hreceiver : ∀ w, f.receiver = some w → w.Appends)
    (hparameters : ∀ w ∈ f.parameters, Writer.Appends (id w)) (hresult : f.result.Appends)
    (p : Printer) :
    f.write enclosed p = p.put (AnnotationUse.textsIn f.annotations p.style
      ++ (f.map (fun w => w.textIn p.style)).bodyText enclosed) := by
  obtain ⟨receiver, parameters, result, suspending, nullable, annotations⟩ := f
  have hlast : ∀ q : Printer, result q = q.put (result.textIn q.style) := hresult
  unfold FunctionType.write bodyText map
  -- the conditions go before the texts are joined, while both branches still start alike
  simp only [AnnotationUse.writeAll_eq_put, Printer.putChar_eq_put, Printer.put_if]
  cases receiver with
  | none =>
    simp only [Printer.separated_eq_put hparameters, hlast, Printer.put_put, Printer.style_put, id,
      receiverText, Option.map_none, String.append_assoc, String.empty_append]
    rfl
  | some receiver =>
    have hfirst : ∀ q : Printer, receiver q = q.put (receiver.textIn q.style) :=
      hreceiver receiver rfl
    cases enclosed with
    | true =>
      simp only [if_true, Printer.separated_eq_put hparameters, hlast, hfirst, Printer.put_put,
        Printer.style_put, id, receiverText, Option.map_some, String.append_assoc]
      rfl
    | false =>
      simp only [Bool.false_eq_true, if_false, Printer.separated_eq_put hparameters, hlast, hfirst,
        Printer.put_put, Printer.style_put, id, receiverText, Option.map_some, String.append_assoc]
      rfl

/-! ## All kinds -/

namespace TypeRef

/-- The writers of the parts of a type append as soon as the parts do. -/
theorem appends_of_mem_writers {ts : List TypeRef} (h : ∀ t ∈ ts, Writer.Appends t.write)
    {w : Writer} (hw : w ∈ writers ts) : Writer.Appends (id w) := by
  rw [writers_eq_map] at hw
  obtain ⟨t, ht, rfl⟩ := List.mem_map.mp hw
  exact h t ht

/-- The texts of the writers of several types are the texts of the types. -/
theorem map_textIn_writers (ts : List TypeRef) (style : Style) :
    (writers ts).map (fun w => w.textIn style) = ts.map (fun t => t.textIn style) := by
  rw [writers_eq_map, List.map_map]
  rfl

/-- **The text of a type**, written over the texts of its parts: its
annotations, its body, and what marks it nullable. -/
def textOver (t : TypeRef) (style : Style) : String :=
  AnnotationUse.textsIn t.annotations style ++ match t with
  | .ofClass c => c.name.reference style ++ Printer.questionText c.nullable
  | .ofApplied a => a.base.reference style
      ++ Printer.angledText (a.arguments.map (fun u => u.textIn style))
      ++ Printer.questionText a.nullable
  | .ofParameter v => v.name ++ v.nullness.suffix
  | .ofProjected w => (w.projection.map (fun u => u.textIn style)).text
  | .ofFunction f => (f.map (fun u => u.textIn style)).bodyText
      (f.receiver.any TypeRef.needsParentheses)
  | .dynamic => "dynamic"

/-- A type puts its text as soon as its parts append. -/
theorem write_eq_put_of_parts {t : TypeRef} (h : ∀ u ∈ t.parts, Writer.Appends u.write)
    (p : Printer) : t.write p = p.put (t.textOver p.style) := by
  unfold textOver
  cases t with
  | ofClass c =>
    show c.write p = _
    rw [ClassRef.write_eq_put, String.append_assoc]
    rfl
  | ofApplied a =>
    obtain ⟨base, arguments, nullable, annotations⟩ := a
    show Applied.write ⟨base, writers arguments, nullable, annotations⟩ p = _
    rw [Applied.write_eq_put (fun w hw => appends_of_mem_writers h hw), map_textIn_writers]
    simp only [String.append_assoc]
    rfl
  | ofParameter v =>
    show v.write p = _
    rw [TypeParameter.write_eq_put, String.append_assoc]
    rfl
  | ofProjected w =>
    obtain ⟨projection, annotations⟩ := w
    cases projection with
    | star => exact Projected.write_eq_put (w := ⟨.star, annotations⟩) (fun _ ht => nomatch ht) p
    | producer type =>
      have htype : Writer.Appends type.write := h type (List.mem_singleton_self _)
      exact Projected.write_eq_put (w := ⟨.producer type.write, annotations⟩)
        (fun _ ht => Option.some.inj ht ▸ htype) p
    | consumer type =>
      have htype : Writer.Appends type.write := h type (List.mem_singleton_self _)
      exact Projected.write_eq_put (w := ⟨.consumer type.write, annotations⟩)
        (fun _ ht => Option.some.inj ht ▸ htype) p
  | ofFunction f =>
    obtain ⟨receiver, parameters, result, suspending, nullable, annotations⟩ := f
    have hparameters : ∀ w ∈ writers parameters, Writer.Appends (id w) := fun w hw =>
      appends_of_mem_writers (fun u hu => h u (parameter_mem_parts hu)) hw
    have hresult : Writer.Appends result.write := h result (result_mem_parts _)
    cases receiver with
    | none =>
      refine (FunctionType.write_eq_put (f := ⟨none, writers parameters, result.write, suspending,
        nullable, annotations⟩) false (fun _ hw => nomatch hw) hparameters hresult p).trans ?_
      unfold FunctionType.map
      rw [map_textIn_writers]
      rfl
    | some receiver =>
      have hreceiver : Writer.Appends receiver.write := h receiver (receiver_mem_parts rfl)
      refine (FunctionType.write_eq_put (f := ⟨some receiver.write, writers parameters,
        result.write, suspending, nullable, annotations⟩) receiver.needsParentheses
        (fun _ hw => Option.some.inj hw ▸ hreceiver) hparameters hresult p).trans ?_
      unfold FunctionType.map
      rw [map_textIn_writers]
      rfl
  | dynamic =>
    show p.put "dynamic" = p.put (AnnotationUse.textsIn [] p.style ++ "dynamic")
    rw [AnnotationUse.textsIn_nil, String.empty_append]

/-- **Types append**, to any depth. -/
theorem appends_write (t : TypeRef) : Writer.Appends t.write := by
  induction t using inductionOnParts with
  | step t ih => exact Writer.appends_of_put t.textOver (write_eq_put_of_parts ih)

/-- **The text of a type is written over the texts of its parts.** -/
theorem textIn_eq_textOver (t : TypeRef) (style : Style) : t.textIn style = t.textOver style :=
  Writer.textIn_of_put t.textOver (write_eq_put_of_parts (fun u _ => appends_write u)) style

/-- A type puts its text. -/
theorem write_eq_put (t : TypeRef) (p : Printer) : t.write p = p.put (t.textIn p.style) :=
  appends_write t p

/-- The non-null top type is written `Any` in every style. -/
theorem textIn_any (style : Style) : any.textIn style = "Any" := by
  rw [textIn_eq_textOver]
  show "" ++ ((QualifiedName.topLevel "kotlin" "Any").reference style ++ "") = "Any"
  rw [QualifiedName.reference_kotlin]
  rfl

end TypeRef

/-! ## The generics of a declaration -/

/-- The keyword of a variance with the space after it; nothing for an
invariant parameter. -/
def Variance.keywordText (variance : Variance) : String :=
  match variance.keyword? with
  | none => ""
  | some keyword => keyword ++ " "

namespace TypeParameter

/-- What stands before anything on bounds in the entry of a parameter: its
annotations, its modifiers and its name. -/
def headText (v : TypeParameter TypeRef) (style : Style) : String :=
  AnnotationUse.textsIn v.annotations style ++ (if v.reified then "reified " else "")
    ++ v.variance.keywordText ++ v.name

/-- What stands after the name in the entry of a parameter. -/
def tailText (v : TypeParameter TypeRef) (style : Style) : String :=
  if v.isDefinite then " & Any"
  else
    match v.bounds with
    | [bound] => " : " ++ bound.textIn style
    | _ => ""

/-- **An entry puts its text**: annotations, modifiers, name, and what there
is to say on bounds. -/
theorem writeEntry_eq_put (v : TypeParameter TypeRef) (p : Printer) :
    v.writeEntry p = p.put (v.headText p.style ++ v.tailText p.style) := by
  have htail : ∀ q : Printer, (if v.isDefinite then TypeRef.any.write (q.put " & ")
      else match v.bounds with
        | [bound] => bound.write (q.put " : ")
        | _ => q) = q.put (v.tailText q.style) := by
    intro q
    unfold tailText
    cases v.isDefinite with
    | true =>
      show TypeRef.any.write (q.put " & ") = q.put " & Any"
      rw [TypeRef.write_eq_put, TypeRef.textIn_any, Printer.put_put]
      rfl
    | false =>
      match v.bounds with
      | [] => exact (Printer.put_empty q).symm
      | [bound] => exact (TypeRef.write_eq_put bound _).trans (Printer.put_put ..)
      | _ :: _ :: _ => exact (Printer.put_empty q).symm
  refine (htail _).trans ?_
  unfold headText Variance.keywordText
  simp only [AnnotationUse.writeAll_eq_put, Printer.put_if]
  cases v.variance.keyword? with
  | none =>
    simp only [Printer.put_put, Printer.style_put, String.append_assoc, String.empty_append]
  | some keyword =>
    simp only [Printer.space_eq_put, Printer.put_put, Printer.style_put, String.append_assoc]

theorem appends_writeEntry (v : TypeParameter TypeRef) : v.writeEntry.Appends :=
  Writer.appends_of_put (fun s => v.headText s ++ v.tailText s) v.writeEntry_eq_put

theorem textIn_writeEntry (v : TypeParameter TypeRef) (style : Style) :
    v.writeEntry.textIn style = v.headText style ++ v.tailText style :=
  Writer.textIn_of_put (fun s => v.headText s ++ v.tailText s) v.writeEntry_eq_put style

end TypeParameter

namespace Generics

/-- The text of a constraint. -/
def constraintText (style : Style) (constraint : String × TypeRef) : String :=
  constraint.1 ++ " : " ++ constraint.2.textIn style

theorem writeConstraint_eq_put (constraint : String × TypeRef) (p : Printer) :
    writeConstraint constraint p = p.put (constraintText p.style constraint) := by
  show constraint.2.write ((p.put constraint.1).put " : ") = _
  rw [TypeRef.write_eq_put, Printer.put_put, Printer.put_put]
  simp only [constraintText, Printer.style_put, String.append_assoc]

theorem appends_writeConstraint (constraint : String × TypeRef) :
    (writeConstraint constraint).Appends :=
  Writer.appends_of_put (fun s => constraintText s constraint) (writeConstraint_eq_put constraint)

theorem textIn_writeConstraint (constraint : String × TypeRef) (style : Style) :
    (writeConstraint constraint).textIn style = constraintText style constraint :=
  Writer.textIn_of_put (fun s => constraintText s constraint) (writeConstraint_eq_put constraint)
    style

/-- **The list in angle brackets** is made of the entries of the parameters. -/
theorem parameterList_render (parameters : List (TypeParameter TypeRef)) (style : Style) :
    (render parameters style).parameterList
      = Printer.angledText (parameters.map (fun v => v.headText style ++ v.tailText style)) := by
  refine (Printer.textIn_angled (fun v _ => v.appends_writeEntry) style).trans ?_
  exact congrArg Printer.angledText
    (List.map_congr_left (fun v _ => v.textIn_writeEntry style))

/-- **The constraints** are those of the parameters, one after the other. -/
theorem constraints_render (parameters : List (TypeParameter TypeRef)) (style : Style) :
    (render parameters style).constraints
      = ", ".intercalate
          ((parameters.flatMap TypeParameter.constraints).map (constraintText style)) := by
  refine (Printer.textIn_separated (fun c _ => appends_writeConstraint c) ", " style).trans ?_
  exact congrArg (", ".intercalate)
    (List.map_congr_left (fun c _ => textIn_writeConstraint c style))

end Generics

end KotlinTypes
