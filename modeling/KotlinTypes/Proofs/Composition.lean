import KotlinTypes.Proofs.Written

/-!
# What texts are composed of

All texts of types are put together in the same few ways: one text after
another, a list in parentheses or in angle brackets, the arrow of a function
type, and texts without any such mark. A property that these ways keep is
**compositional**, and holds of the text of a type as soon as it holds of the
names in it (`Compositional.textIn`).

So whoever wants to know something of all texts looks at five ways of composing
and never at the kinds of types. Where a list is concerned the property is only
asked of the list *with its brackets*, since a comma may matter outside of them.
-/

namespace KotlinTypes

/-! ## Names -/

/-- **A text without marks**: no bracket, no comma and no dash. -/
def IsUnmarked (s : String) : Prop :=
  ∀ c ∈ s.toList, c ∉ ['(', ')', '<', '>', ',', '-']

instance (s : String) : Decidable (IsUnmarked s) :=
  List.decidableBAll (fun c => c ∉ ['(', ')', '<', '>', ',', '-']) s.toList

/-- The names a class is written with: its package and its path. -/
def QualifiedName.names (q : QualifiedName) : List String :=
  q.package :: q.path

/-- The names a type is written with, apart from those in its parts. -/
def TypeRef.names (t : TypeRef) : List String :=
  t.annotations.flatMap (fun a => a.name.names) ++
    match t with
    | .ofClass c => c.name.names
    | .ofApplied a => a.base.names
    | .ofParameter v => [v.name]
    | .ofProjected _ | .ofFunction _ | .dynamic => []

section Joined

variable {P : String → Prop} (happend : ∀ {s t : String}, P s → P t → P (s ++ t))

include happend

/-- **What holds of some texts and of a separator** holds of the texts with the
separator between them. -/
theorem intercalate_of_append {separator : String} (hseparator : P separator) {s : String}
    {rest : List String} (h : ∀ t ∈ s :: rest, P t) : P (separator.intercalate (s :: rest)) := by
  induction rest generalizing s with
  | nil =>
    rw [String.intercalate_singleton]
    exact h s List.mem_cons_self
  | cons t rest ih =>
    rw [String.intercalate_cons_cons]
    exact happend (happend (h s List.mem_cons_self) hseparator)
      (ih (fun u hu => h u (List.mem_cons_of_mem s hu)))

/-- What holds of a dot and of the names of a class holds of a reference to
it. -/
theorem QualifiedName.reference_of_append (hdot : P ".") {q : QualifiedName}
    (h : ∀ name ∈ q.names, P name) (style : Style) : P (q.reference style) := by
  have hrelative : P q.relative :=
    intercalate_of_append happend hdot (fun name hname => h name (List.mem_cons_of_mem _ hname))
  unfold reference canonical
  split
  · exact hrelative
  · split
    · exact hrelative
    · exact happend (happend (h q.package List.mem_cons_self) hdot) hrelative

end Joined

/-! ## Ways of composing -/

/-- **A compositional property of texts**: one that the ways of composing texts
keep. -/
structure Compositional (P : String → Prop) : Prop where
  /-- It holds of texts without marks. -/
  unmarked {s : String} (h : IsUnmarked s) : P s
  /-- It holds of the arrow of a function type. -/
  arrow : P " -> "
  /-- It holds of one text after another. -/
  append {s t : String} (hs : P s) (ht : P t) : P (s ++ t)
  /-- It holds of a list in parentheses. -/
  round {texts : List String} (h : ∀ text ∈ texts, P text) :
    P ("(" ++ ", ".intercalate texts ++ ")")
  /-- It holds of a list in angle brackets. -/
  angle {texts : List String} (h : ∀ text ∈ texts, P text) :
    P ("<" ++ ", ".intercalate texts ++ ">")

namespace Compositional

variable {P : String → Prop} (hP : Compositional P)

include hP

/-- A fixed text of type syntax, brackets, commas and arrows apart. -/
theorem word (s : String) (h : IsUnmarked s := by decide) : P s :=
  hP.unmarked h

/-- A text in parentheses. -/
theorem parenthesized {s : String} (h : P s) : P ("(" ++ s ++ ")") := by
  have hround := hP.round (List.forall_mem_singleton.mpr h)
  rwa [String.intercalate_singleton] at hround

/-- References to classes. -/
theorem reference {q : QualifiedName} (h : ∀ name ∈ q.names, P name) (style : Style) :
    P (q.reference style) :=
  q.reference_of_append hP.append (hP.word ".") h style

/-- Annotations. -/
theorem textsIn {annotations : List AnnotationUse}
    (h : ∀ a ∈ annotations, ∀ name ∈ a.name.names, P name) (style : Style) :
    P (AnnotationUse.textsIn annotations style) := by
  induction annotations with
  | nil =>
    rw [AnnotationUse.textsIn_nil]
    exact hP.word ""
  | cons a annotations ih =>
    have ha : P (a.name.reference style) := hP.reference (h a List.mem_cons_self) style
    rw [AnnotationUse.textsIn_cons, AnnotationUse.textIn_eq]
    exact hP.append (hP.append (hP.append (hP.word "@") ha) (hP.word " "))
      (ih (fun b hb => h b (List.mem_cons_of_mem a hb)))

/-- Lists in angle brackets. -/
theorem angledText {texts : List String} (h : ∀ text ∈ texts, P text) :
    P (Printer.angledText texts) := by
  by_cases hnil : texts = []
  · rw [hnil]
    exact hP.word ""
  · rw [Printer.angledText_of_ne_nil hnil]
    exact hP.angle h

/-- The question mark, if there is one. -/
theorem questionText (nullable : Bool) : P (Printer.questionText nullable) := by
  cases nullable with
  | true => exact hP.word "?"
  | false => exact hP.word ""

/-- **Function types**, as soon as their parts have the property. -/
theorem bodyText {f : FunctionType String} (hreceiver : ∀ text, f.receiver = some text → P text)
    (hparameters : ∀ text ∈ f.parameters, P text) (hresult : P f.result) (enclosed : Bool) :
    P (f.bodyText enclosed) := by
  obtain ⟨receiver, parameters, result, suspending, nullable, annotations⟩ := f
  -- the marks are split where a closing parenthesis ends what it closes
  have hfirst : P (FunctionType.receiverText enclosed receiver) := by
    match receiver, enclosed with
    | none, _ => exact hP.word ""
    | some text, true =>
      have hmark : ")." = ")" ++ "." := rfl
      show P ("(" ++ text ++ ").")
      rw [hmark, ← String.append_assoc]
      exact hP.append (hP.parenthesized (hreceiver text rfl)) (hP.word ".")
    | some text, false => exact hP.append (hreceiver text rfl) (hP.word ".")
  have hplain : P (FunctionType.bodyText ⟨receiver, parameters, result, false, false, annotations⟩
      enclosed) := by
    have hmark : ") -> " = ")" ++ " -> " := rfl
    have htail : "(" ++ (", ".intercalate parameters ++ (") -> " ++ result))
        = "(" ++ ", ".intercalate parameters ++ ")" ++ (" -> " ++ result) := by
      rw [hmark, String.append_assoc, String.append_assoc, String.append_assoc]
    rw [FunctionType.bodyText_plain, htail]
    exact hP.append hfirst (hP.append (hP.round hparameters) (hP.append hP.arrow hresult))
  have hbody : P (FunctionType.bodyText
      ⟨receiver, parameters, result, suspending, false, annotations⟩ enclosed) := by
    cases suspending with
    | false => exact hplain
    | true =>
      rw [FunctionType.bodyText_suspending]
      exact hP.append (hP.word "suspend ") hplain
  cases nullable with
  | false => exact hbody
  | true =>
    have hmark : ")?" = ")" ++ "?" := rfl
    rw [FunctionType.bodyText_nullable, hmark, ← String.append_assoc, ← String.append_assoc]
    exact hP.append (hP.parenthesized hbody) (hP.word "?")

/-- **The text of a type** has a compositional property, whatever it is made
of, as long as its names have it. -/
theorem textIn {t : TypeRef} (h : t.Everywhere (fun u => ∀ name ∈ u.names, P name))
    (style : Style) : P (t.textIn style) := by
  induction t using TypeRef.inductionOnParts with
  | step t ih =>
    have hpart : ∀ u ∈ t.parts, P (u.textIn style) := fun u hu => ih u hu (h.inPart hu)
    have hown : ∀ name ∈ t.names, P name := h.here
    have hnotes : P (AnnotationUse.textsIn t.annotations style) := by
      refine hP.textsIn (fun a ha name hname => hown name ?_) style
      exact List.mem_append_left _ (List.mem_flatMap.mpr ⟨a, ha, hname⟩)
    rw [TypeRef.textIn_eq_textOver]
    unfold TypeRef.textOver
    refine hP.append hnotes ?_
    match t with
    | .ofClass c =>
      have hname := hP.reference (fun n hn => hown n (List.mem_append_right _ hn)) style
      exact hP.append hname (hP.questionText c.nullable)
    | .ofApplied a =>
      have hname := hP.reference (fun n hn => hown n (List.mem_append_right _ hn)) style
      refine hP.append (hP.append hname (hP.angledText (fun text htext => ?_)))
        (hP.questionText a.nullable)
      obtain ⟨u, hu, rfl⟩ := List.mem_map.mp htext
      exact hpart u hu
    | .ofParameter v =>
      have hname : P v.name := hown v.name (List.mem_append_right _ List.mem_cons_self)
      have hsuffix : P v.nullness.suffix := by
        cases v.nullness with
        | plain => exact hP.word ""
        | nullable => exact hP.word "?"
        | definite => exact hP.word " & Any"
      exact hP.append hname hsuffix
    | .ofProjected ⟨.star, _⟩ => exact hP.word "*"
    | .ofProjected ⟨.producer u, _⟩ =>
      exact hP.append (hP.word "out ") (hpart u (List.mem_singleton_self u))
    | .ofProjected ⟨.consumer u, _⟩ =>
      exact hP.append (hP.word "in ") (hpart u (List.mem_singleton_self u))
    | .ofFunction f =>
      refine hP.bodyText (fun text htext => ?_) (fun text htext => ?_) ?_ _
      · obtain ⟨u, hu, rfl⟩ := Option.map_eq_some_iff.mp htext
        exact hpart u (TypeRef.receiver_mem_parts hu)
      · obtain ⟨u, hu, rfl⟩ := List.mem_map.mp htext
        exact hpart u (TypeRef.parameter_mem_parts hu)
      · exact hpart f.result (TypeRef.result_mem_parts f)
    | .dynamic => exact hP.word "dynamic"

end Compositional

end KotlinTypes
