import KotlinTypes.Proofs.Written

/-!
# What shows of a type

The text of a type does not show all of it. A class and a type parameter of
the same name look alike, the bounds of a parameter stand elsewhere, and of an
annotation only the reference to its class is written. What is left is the
**visible structure** of the type, a `Visible`: a tree over six shapes, with
names in place of classes and parameters.

The text is written from the visible structure alone (`TypeRef.text_visible`),
so types that agree in it have the same text. That is the easy half; that
nothing more than the visible structure is lost is the subject of
`KotlinTypes.Proofs.Reading`.
-/

namespace KotlinTypes

/-- **The shape of a visible structure** over the visible structures of its
parts. -/
inductive Shape (τ : Type) where
  /-- A class or a type parameter by its name, nullable or not. -/
  | named (name : String) (nullable : Bool)
  /-- A type parameter in the definite form. -/
  | definite (name : String)
  /-- A class applied to arguments. -/
  | applied (base : String) (arguments : List τ) (nullable : Bool)
  /-- The projection `*`. -/
  | star
  /-- The projection `out` a type. -/
  | producer (type : τ)
  /-- The projection `in` a type. -/
  | consumer (type : τ)
  /-- A function type. -/
  | function (receiver : Option τ) (parameters : List τ) (result : τ) (suspending nullable : Bool)
  /-- The type `dynamic`. -/
  | dynamic

/-- The parts of a shape, in the order in which they are written. -/
def Shape.parts {τ : Type} : Shape τ → List τ
  | .named .. | .definite _ | .star | .dynamic => []
  | .applied _ arguments _ => arguments
  | .producer type | .consumer type => [type]
  | .function receiver parameters result _ _ => receiver.toList ++ parameters ++ [result]

/-- **The visible structure of a type**: the references of its annotations and
its shape. -/
inductive Visible where
  /-- Annotations before a shape. -/
  | mk (notes : List String) (shape : Shape Visible)

namespace Visible

/-- The references of the annotations, first one first. -/
def notes : Visible → List String
  | ⟨notes, _⟩ => notes

/-- What stands after the annotations. -/
def shape : Visible → Shape Visible
  | ⟨_, shape⟩ => shape

/-- Whether a receiver that shows this needs parentheses. -/
def needsParentheses : Visible → Bool
  | ⟨_, .function ..⟩ => true
  | ⟨notes, _⟩ => !notes.isEmpty

/-! ## The text of a visible structure -/

/-- The text of annotations with these references. -/
def notesText (notes : List String) : String :=
  String.join (notes.map (fun note => "@" ++ note ++ " "))

mutual
/-- **The text of a visible structure**, annotations first. -/
def text : Visible → String
  | ⟨notes, shape⟩ => notesText notes ++ shapeText shape
  termination_by structural v => v
/-- The text of a shape. -/
def shapeText : Shape Visible → String
  | .named name nullable => name ++ Printer.questionText nullable
  | .definite name => name ++ " & Any"
  | .applied base arguments nullable =>
      base ++ Printer.angledText (texts arguments) ++ Printer.questionText nullable
  | .star => "*"
  | .producer type => "out " ++ type.text
  | .consumer type => "in " ++ type.text
  | .function none parameters result suspending nullable =>
      FunctionType.bodyText ⟨none, texts parameters, result.text, suspending, nullable, []⟩ false
  | .function (some receiver) parameters result suspending nullable =>
      FunctionType.bodyText
        ⟨some receiver.text, texts parameters, result.text, suspending, nullable, []⟩
        receiver.needsParentheses
  | .dynamic => "dynamic"
  termination_by structural shape => shape
/-- The texts of several visible structures. -/
def texts : List Visible → List String
  | [] => []
  | v :: vs => v.text :: texts vs
  termination_by structural vs => vs
end

/-- The texts of several visible structures are the text of each. -/
@[simp] theorem texts_eq_map (vs : List Visible) : texts vs = vs.map text := by
  induction vs with
  | nil => rfl
  | cons v vs ih => rw [texts, ih, List.map_cons]

theorem notesText_cons (note : String) (notes : List String) :
    notesText (note :: notes) = "@" ++ note ++ " " ++ notesText notes :=
  String.join_cons

/-- Without annotations the text is that of the shape. -/
theorem text_bare (shape : Shape Visible) : text ⟨[], shape⟩ = shapeText shape := by
  rw [text, notesText, List.map_nil, String.join_nil, String.empty_append]

/-- An annotation stands before the rest of the text. -/
theorem text_cons (note : String) (notes : List String) (shape : Shape Visible) :
    text ⟨note :: notes, shape⟩ = "@" ++ (note ++ (" " ++ text ⟨notes, shape⟩)) := by
  rw [text, text, notesText_cons]
  simp only [String.append_assoc]

/-! ### Function types -/

/-- The text of a function type from its parameters on, without the opening
parenthesis. -/
def signatureText (parameters : List Visible) (result : Visible) : String :=
  ", ".intercalate (parameters.map text) ++ (") -> " ++ result.text)

variable (receiver : Visible) (parameters : List Visible) (result : Visible)

/-- A nullable function type is the same one in parentheses. -/
theorem shapeText_nullable (receiver : Option Visible) (suspending : Bool) :
    shapeText (.function receiver parameters result suspending true)
      = "(" ++ (shapeText (.function receiver parameters result suspending false) ++ ")?") := by
  match receiver with
  | none | some _ => exact FunctionType.bodyText_nullable ..

/-- A suspending function type is the same one after the keyword. -/
theorem shapeText_suspending (receiver : Option Visible) :
    shapeText (.function receiver parameters result true false)
      = "suspend " ++ shapeText (.function receiver parameters result false false) := by
  match receiver with
  | none | some _ => exact FunctionType.bodyText_suspending ..

/-- A function type without a receiver. -/
theorem shapeText_function :
    shapeText (.function none parameters result false false)
      = "(" ++ signatureText parameters result := by
  rw [shapeText, FunctionType.bodyText_plain, signatureText, texts_eq_map]
  exact String.empty_append

/-- An extension function type whose receiver stands in parentheses. -/
theorem shapeText_enclosed (h : receiver.needsParentheses = true) :
    shapeText (.function (some receiver) parameters result false false)
      = "(" ++ (receiver.text ++ (").(" ++ signatureText parameters result)) := by
  rw [shapeText, FunctionType.bodyText_plain, texts_eq_map, h]
  show "(" ++ receiver.text ++ ")." ++ ("(" ++ signatureText parameters result) = _
  have hdot : ").(" = ")." ++ "(" := rfl
  rw [hdot, String.append_assoc, String.append_assoc, String.append_assoc]

/-- An extension function type whose receiver stands by itself. -/
theorem shapeText_extension (h : receiver.needsParentheses = false) :
    shapeText (.function (some receiver) parameters result false false)
      = receiver.text ++ (".(" ++ signatureText parameters result) := by
  rw [shapeText, FunctionType.bodyText_plain, texts_eq_map, h]
  show receiver.text ++ "." ++ ("(" ++ signatureText parameters result) = _
  have hdot : ".(" = "." ++ "(" := rfl
  rw [hdot, String.append_assoc, String.append_assoc]

end Visible

/-! ## What shows of a type -/

/-- What annotations show: the references to their classes. -/
def AnnotationUse.references (annotations : List AnnotationUse) (style : Style) : List String :=
  annotations.map (fun a => a.name.reference style)

namespace TypeRef

mutual
/-- **What shows of a type** in a style. -/
def visible (style : Style) : TypeRef → Visible
  | .ofClass c =>
      ⟨AnnotationUse.references c.annotations style, .named (c.name.reference style) c.nullable⟩
  | .ofApplied ⟨base, arguments, nullable, annotations⟩ =>
      ⟨AnnotationUse.references annotations style,
        .applied (base.reference style) (visibles style arguments) nullable⟩
  | .ofParameter v =>
      ⟨AnnotationUse.references v.annotations style,
        match v.nullness with
        | .plain => .named v.name false
        | .nullable => .named v.name true
        | .definite => .definite v.name⟩
  | .ofProjected ⟨.star, annotations⟩ =>
      ⟨AnnotationUse.references annotations style, .star⟩
  | .ofProjected ⟨.producer type, annotations⟩ =>
      ⟨AnnotationUse.references annotations style, .producer (type.visible style)⟩
  | .ofProjected ⟨.consumer type, annotations⟩ =>
      ⟨AnnotationUse.references annotations style, .consumer (type.visible style)⟩
  | .ofFunction ⟨none, parameters, result, suspending, nullable, annotations⟩ =>
      ⟨AnnotationUse.references annotations style,
        .function none (visibles style parameters) (result.visible style) suspending nullable⟩
  | .ofFunction ⟨some receiver, parameters, result, suspending, nullable, annotations⟩ =>
      ⟨AnnotationUse.references annotations style,
        .function (some (receiver.visible style)) (visibles style parameters)
          (result.visible style) suspending nullable⟩
  | .dynamic => ⟨[], .dynamic⟩
  termination_by structural t => t
/-- What shows of several types. -/
def visibles (style : Style) : List TypeRef → List Visible
  | [] => []
  | t :: ts => t.visible style :: visibles style ts
  termination_by structural ts => ts
end

/-- What shows of several types is what shows of each. -/
@[simp] theorem visibles_eq_map (style : Style) (ts : List TypeRef) :
    visibles style ts = ts.map (visible style) := by
  induction ts with
  | nil => rfl
  | cons t ts ih => rw [visibles, ih, List.map_cons]

/-- What shows of a function type, receiver or not. -/
theorem visible_ofFunction (style : Style) (f : FunctionType TypeRef) :
    (ofFunction f).visible style
      = ⟨AnnotationUse.references f.annotations style,
          .function (f.receiver.map (visible style)) (f.parameters.map (visible style))
            (f.result.visible style) f.suspending f.nullable⟩ := by
  match f with
  | ⟨none, _, _, _, _, _⟩ | ⟨some _, _, _, _, _, _⟩ =>
    rw [visible, visibles_eq_map]
    rfl

/-- The notes of what shows are the references of the annotations. -/
theorem notes_visible (style : Style) (t : TypeRef) :
    (t.visible style).notes = AnnotationUse.references t.annotations style := by
  match t with
  | .ofClass _ | .ofApplied _ | .ofParameter _ | .dynamic => rfl
  | .ofProjected ⟨.star, _⟩ | .ofProjected ⟨.producer _, _⟩ | .ofProjected ⟨.consumer _, _⟩ => rfl
  | .ofFunction ⟨none, _, _, _, _, _⟩ | .ofFunction ⟨some _, _, _, _, _, _⟩ => rfl

/-- What shows within a type is what shows of its parts. -/
theorem exists_of_mem_parts_visible {style : Style} {t : TypeRef} {v : Visible}
    (h : v ∈ (t.visible style).shape.parts) : ∃ u ∈ t.parts, v = u.visible style := by
  match t with
  | .ofClass _ | .dynamic | .ofProjected ⟨.star, _⟩ => exact absurd h List.not_mem_nil
  | .ofParameter ⟨_, _, _, .plain, _, _⟩ | .ofParameter ⟨_, _, _, .nullable, _, _⟩
  | .ofParameter ⟨_, _, _, .definite, _, _⟩ => exact absurd h List.not_mem_nil
  | .ofApplied ⟨_, arguments, _, _⟩ =>
    have hmem : v ∈ visibles style arguments := h
    rw [visibles_eq_map] at hmem
    obtain ⟨u, hu, rfl⟩ := List.mem_map.mp hmem
    exact ⟨u, hu, rfl⟩
  | .ofProjected ⟨.producer u, _⟩ | .ofProjected ⟨.consumer u, _⟩ =>
    exact ⟨u, List.mem_singleton_self u, List.mem_singleton.mp h⟩
  | .ofFunction f =>
    rw [visible_ofFunction] at h
    obtain hfront | hresult := List.mem_append.mp h
    · obtain hreceiver | hparameter := List.mem_append.mp hfront
      · obtain ⟨u, hu, rfl⟩ := Option.map_eq_some_iff.mp (Option.mem_toList.mp hreceiver)
        exact ⟨u, receiver_mem_parts hu, rfl⟩
      · obtain ⟨u, hu, rfl⟩ := List.mem_map.mp hparameter
        exact ⟨u, parameter_mem_parts hu, rfl⟩
    · exact ⟨f.result, result_mem_parts f, List.mem_singleton.mp hresult⟩

/-- A receiver needs parentheses where what shows of it does. -/
theorem needsParentheses_visible (style : Style) (t : TypeRef) :
    (t.visible style).needsParentheses = t.needsParentheses := by
  have hempty : ∀ annotations : List AnnotationUse,
      (!(AnnotationUse.references annotations style).isEmpty) = !annotations.isEmpty := by
    intro annotations
    rw [AnnotationUse.references, List.isEmpty_map]
  match t with
  | .ofClass c => exact hempty c.annotations
  | .ofApplied a => exact hempty a.annotations
  | .ofParameter ⟨_, _, _, .plain, _, annotations⟩ => exact hempty annotations
  | .ofParameter ⟨_, _, _, .nullable, _, annotations⟩ => exact hempty annotations
  | .ofParameter ⟨_, _, _, .definite, _, annotations⟩ => exact hempty annotations
  | .ofProjected ⟨.star, annotations⟩ => exact hempty annotations
  | .ofProjected ⟨.producer _, annotations⟩ => exact hempty annotations
  | .ofProjected ⟨.consumer _, annotations⟩ => exact hempty annotations
  | .ofFunction ⟨none, _, _, _, _, _⟩ => rfl
  | .ofFunction ⟨some _, _, _, _, _, _⟩ => rfl
  | .dynamic => rfl

/-- The texts of annotations are those of their references. -/
theorem notesText_references (annotations : List AnnotationUse) (style : Style) :
    Visible.notesText (AnnotationUse.references annotations style)
      = AnnotationUse.textsIn annotations style := by
  unfold Visible.notesText AnnotationUse.textsIn AnnotationUse.references
  rw [List.map_map]
  refine congrArg String.join (List.map_congr_left (fun a _ => ?_))
  rw [AnnotationUse.textIn_eq]
  rfl

/-- The texts of what shows of several types are the texts of the types, as
soon as that is so of each. -/
theorem texts_visibles {style : Style} {ts : List TypeRef}
    (h : ∀ t ∈ ts, (t.visible style).text = t.textIn style) :
    Visible.texts (visibles style ts) = ts.map (fun t => t.textIn style) := by
  rw [Visible.texts_eq_map, visibles_eq_map, List.map_map]
  exact List.map_congr_left h

/-- **The text of a type is the text of what shows of it.** -/
theorem text_visible (style : Style) (t : TypeRef) : (t.visible style).text = t.textIn style := by
  induction t using inductionOnParts with
  | step t ih =>
    rw [textIn_eq_textOver]
    unfold textOver
    rw [← notesText_references]
    cases t with
    | ofClass c => rfl
    | ofApplied a =>
      obtain ⟨base, arguments, nullable, annotations⟩ := a
      have harguments : Visible.texts (visibles style arguments)
          = arguments.map (fun t => t.textIn style) := texts_visibles ih
      show _ ++ (_ ++ Printer.angledText (Visible.texts (visibles style arguments)) ++ _) = _
      rw [harguments]
      rfl
    | ofParameter v =>
      obtain ⟨name, bounds, variance, nullness, reified, annotations⟩ := v
      cases nullness <;> rfl
    | ofProjected w =>
      obtain ⟨projection, annotations⟩ := w
      cases projection with
      | star => rfl
      | producer type =>
        show _ ++ ("out " ++ (type.visible style).text) = _
        rw [ih type (List.mem_singleton_self _)]
        rfl
      | consumer type =>
        show _ ++ ("in " ++ (type.visible style).text) = _
        rw [ih type (List.mem_singleton_self _)]
        rfl
    | ofFunction f =>
      obtain ⟨receiver, parameters, result, suspending, nullable, annotations⟩ := f
      have hparameters : Visible.texts (visibles style parameters)
          = parameters.map (fun t => t.textIn style) :=
        texts_visibles (fun u hu => ih u (parameter_mem_parts hu))
      have hresult := ih result (result_mem_parts _)
      cases receiver with
      | none =>
        show _ ++ FunctionType.bodyText ⟨none, Visible.texts (visibles style parameters),
          (result.visible style).text, suspending, nullable, []⟩ false = _
        rw [hparameters, hresult]
        rfl
      | some receiver =>
        have hreceiver := ih receiver (receiver_mem_parts rfl)
        show _ ++ FunctionType.bodyText ⟨some (receiver.visible style).text,
          Visible.texts (visibles style parameters), (result.visible style).text, suspending,
          nullable, []⟩ (receiver.visible style).needsParentheses = _
        rw [hparameters, hresult, hreceiver, needsParentheses_visible]
        rfl
    | dynamic => rfl

end TypeRef

end KotlinTypes
