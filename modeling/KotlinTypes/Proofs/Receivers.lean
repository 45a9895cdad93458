import KotlinTypes.Proofs.Composition
import KotlinTypes.Proofs.DefiniteForm

/-!
# Receivers as units

In `suspend String.(Int) -> Unit` the receiver has the rest of a function type
around it, and what belongs to the receiver should not be read as belonging to
all of it. A text is safe in that place as a **unit** (`IsUnit`): it stands in
parentheses of its own, or has no blank outside of its brackets, so that neither
an annotation in front nor an arrow inside can be torn off.

What "outside" means takes brackets that match each other, where the arrow
`->` holds none (`Matched`). Matching is compositional, so the brackets of all
texts match as soon as those of names do, and a receiver in parentheses is a
unit whatever its kind. One that stands without is written from names, brackets
and a question mark alone.

Not every receiver is a unit. Parentheses are put around function types and
around annotated types, and the definite form `T & Any` is neither, though it
has blanks of its own. `FunctionType.isUnit_receiver_iff` says that nothing else
is missed.
-/

namespace KotlinTypes

/-! ## Matching brackets -/

/-- **The brackets of a text match each other**, round and angle ones, and the
second text is what stands outside of them all. The arrow is no bracket. -/
inductive Matched : List Char → List Char → Prop
  /-- The empty text. -/
  | nil : Matched [] []
  /-- A character that is no mark. -/
  | plain {c : Char} {s o : List Char} (hc : c ∉ ['(', ')', '<', '>', '-']) (hs : Matched s o) :
      Matched (c :: s) (c :: o)
  /-- An arrow. -/
  | arrow {s o : List Char} (hs : Matched s o) : Matched ('-' :: '>' :: s) ('-' :: '>' :: o)
  /-- Parentheses around a text whose brackets match. -/
  | round {s t i o : List Char} (hs : Matched s i) (ht : Matched t o) :
      Matched ('(' :: (s ++ ')' :: t)) o
  /-- Angle brackets around such a text. -/
  | angle {s t i o : List Char} (hs : Matched s i) (ht : Matched t o) :
      Matched ('<' :: (s ++ '>' :: t)) o

namespace Matched

variable {s t o p : List Char}

/-- What matches one after the other matches together. -/
theorem append (hs : Matched s o) (ht : Matched t p) : Matched (s ++ t) (o ++ p) := by
  induction hs with
  | nil => exact ht
  | plain hc _ ih => exact .plain hc ih
  | arrow _ ih => exact .arrow ih
  | round hs _ _ ih =>
    rw [List.cons_append, List.append_assoc]
    exact .round hs ih
  | angle hs _ _ ih =>
    rw [List.cons_append, List.append_assoc]
    exact .angle hs ih

/-- A text without marks stands outside of brackets as a whole. -/
theorem of_unmarked (h : ∀ c ∈ s, c ∉ ['(', ')', '<', '>', '-']) : Matched s s := by
  induction s with
  | nil => exact .nil
  | cons c s ih =>
    exact .plain (h c List.mem_cons_self) (ih (fun d hd => h d (List.mem_cons_of_mem c hd)))

/-- And that is the only way to read it. -/
theorem eq_of_unmarked (hs : Matched s o) (h : ∀ c ∈ s, c ∉ ['(', ')', '<', '>', '-']) :
    o = s := by
  induction hs with
  | nil => rfl
  | plain _ _ ih => rw [ih (fun d hd => h d (List.mem_cons_of_mem _ hd))]
  | arrow => exact absurd (by decide) (h '-' List.mem_cons_self)
  | round => exact absurd (by decide) (h '(' List.mem_cons_self)
  | angle => exact absurd (by decide) (h '<' List.mem_cons_self)

end Matched

/-- **A text whose brackets match.** -/
def IsNested (s : String) : Prop :=
  ∃ outside, Matched s.toList outside

/-- **A text without a blank outside of its brackets**, which match. -/
def IsCompact (s : String) : Prop :=
  ∃ outside, Matched s.toList outside ∧ ' ' ∉ outside

/-- **A text in parentheses of its own**: the first character opens and the last
one closes the same pair. -/
def IsEnclosed (s : String) : Prop :=
  ∃ inner, s = "(" ++ inner ++ ")" ∧ IsNested inner

/-- **A unit**: a text in parentheses of its own, or without a blank outside of
its brackets. -/
def IsUnit (s : String) : Prop :=
  IsEnclosed s ∨ IsCompact s

/-! ## Composing -/

/-- Brackets match in one text after another. -/
theorem IsNested.append {s t : String} (hs : IsNested s) (ht : IsNested t) : IsNested (s ++ t) := by
  obtain ⟨o, ho⟩ := hs
  obtain ⟨p, hp⟩ := ht
  refine ⟨o ++ p, ?_⟩
  rw [String.toList_append]
  exact ho.append hp

/-- No blank stands outside of brackets in one compact text after another. -/
theorem IsCompact.append {s t : String} (hs : IsCompact s) (ht : IsCompact t) :
    IsCompact (s ++ t) := by
  obtain ⟨o, ho, hblank⟩ := hs
  obtain ⟨p, hp, hblank'⟩ := ht
  refine ⟨o ++ p, ?_, fun hmem => (List.mem_append.mp hmem).elim hblank hblank'⟩
  rw [String.toList_append]
  exact ho.append hp

/-- A text without marks holds none of those that brackets and arrows are made
of. -/
theorem IsUnmarked.notMem_marks {s : String} (h : IsUnmarked s) :
    ∀ c ∈ s.toList, c ∉ ['(', ')', '<', '>', '-'] := by
  have hmarks : ['(', ')', '<', '>', '-'].Sublist ['(', ')', '<', '>', ',', '-'] :=
    .cons_cons _ (.cons_cons _ (.cons_cons _ (.cons_cons _ (.cons _ (.refl _)))))
  exact fun c hc hmark => h c hc (hmarks.subset hmark)

/-- Brackets match in a text without any. -/
theorem IsUnmarked.isNested {s : String} (h : IsUnmarked s) : IsNested s :=
  ⟨s.toList, .of_unmarked h.notMem_marks⟩

/-- Brackets match in a list whose items have matching brackets. -/
theorem isNested_intercalate {texts : List String} (h : ∀ text ∈ texts, IsNested text) :
    IsNested (", ".intercalate texts) := by
  have hcomma : IsNested ", " := ⟨", ".toList, .plain (by decide) (.plain (by decide) .nil)⟩
  cases texts with
  | nil => exact ⟨_, .nil⟩
  | cons text texts => exact intercalate_of_append IsNested.append hcomma h

/-- Nothing of a list in angle brackets stands outside of them. -/
theorem matched_angle {texts : List String} (h : ∀ text ∈ texts, IsNested text) :
    Matched ("<" ++ ", ".intercalate texts ++ ">").toList [] := by
  obtain ⟨i, hi⟩ := isNested_intercalate h
  rw [String.toList_append, String.toList_append]
  exact .angle hi .nil

/-- **Composing keeps brackets matching.** -/
theorem compositional_isNested : Compositional IsNested where
  unmarked h := h.isNested
  arrow := ⟨" -> ".toList, .plain (by decide) (.arrow (.plain (by decide) .nil))⟩
  append hs ht := hs.append ht
  round h := by
    obtain ⟨i, hi⟩ := isNested_intercalate h
    refine ⟨[], ?_⟩
    rw [String.toList_append, String.toList_append]
    exact .round hi .nil
  angle h := ⟨[], matched_angle h⟩

/-! ## Types of solid names -/

/-- **A solid text**: no blank, no bracket and no dash. -/
def IsSolid (s : String) : Prop :=
  ∀ c ∈ s.toList, c ∉ [' ', '(', ')', '<', '>', '-']

instance (s : String) : Decidable (IsSolid s) :=
  List.decidableBAll (fun c => c ∉ [' ', '(', ')', '<', '>', '-']) s.toList

/-- **A type of solid names**, at any depth. -/
abbrev TypeRef.Solid : TypeRef → Prop :=
  Everywhere (fun t => ∀ name ∈ t.names, IsSolid name)

/-- A solid text holds none of the marks that brackets and arrows are made
of. -/
theorem IsSolid.notMem_marks {s : String} (h : IsSolid s) :
    ∀ c ∈ s.toList, c ∉ ['(', ')', '<', '>', '-'] :=
  fun c hc hmark => h c hc (List.mem_cons_of_mem ' ' hmark)

/-- A solid text is compact. -/
theorem IsSolid.isCompact {s : String} (h : IsSolid s) : IsCompact s :=
  ⟨s.toList, .of_unmarked h.notMem_marks, fun hblank => h ' ' hblank List.mem_cons_self⟩

/-- The fixed texts of type syntax without blanks and brackets are compact. -/
theorem isCompact_text (s : String) (h : IsSolid s := by decide) : IsCompact s :=
  h.isCompact

namespace TypeRef

variable {t : TypeRef} {style : Style}

/-- **The brackets of all texts match**, if names are solid. -/
theorem isNested_textIn (h : t.Solid) (style : Style) : IsNested (t.textIn style) :=
  compositional_isNested.textIn
    (h.imp (fun _ hu name hname => ⟨_, .of_unmarked (hu name hname).notMem_marks⟩)) style

/-- References to classes of solid names are compact. -/
theorem isCompact_reference {q : QualifiedName} (h : ∀ name ∈ q.names, IsSolid name)
    (style : Style) : IsCompact (q.reference style) :=
  q.reference_of_append IsCompact.append (isCompact_text ".")
    (fun name hname => (h name hname).isCompact) style

/-- The question mark, if there is one, is compact. -/
theorem isCompact_questionText (nullable : Bool) : IsCompact (Printer.questionText nullable) := by
  cases nullable with
  | true => exact isCompact_text "?"
  | false => exact isCompact_text ""

/-- **A type that is written as an intersection**: a definite parameter without
annotations. -/
def IsIntersection : TypeRef → Prop
  | .ofParameter v => v.isDefinite = true ∧ v.annotations = []
  | _ => False

/-- **What needs no parentheses is compact**, projections and intersections
apart. -/
theorem isCompact_textIn (h : t.Solid) (hparentheses : t.needsParentheses = false)
    (hprojection : ∀ w, t ≠ .ofProjected w) (hintersection : ¬ t.IsIntersection) :
    IsCompact (t.textIn style) := by
  have hown : ∀ name ∈ t.names, IsSolid name := h.here
  have hnotes : t.annotations = [] := by
    match t with
    | .ofFunction _ => exact nomatch hparentheses
    | .ofClass _ | .ofApplied _ | .ofParameter _ | .ofProjected _ | .dynamic =>
      simpa [needsParentheses] using hparentheses
  rw [textIn_eq_textOver]
  unfold textOver
  rw [hnotes, AnnotationUse.textsIn_nil, String.empty_append]
  match t with
  | .ofClass c =>
    have hname := isCompact_reference (fun n hn => hown n (List.mem_append_right _ hn)) style
    exact hname.append (isCompact_questionText c.nullable)
  | .ofApplied a =>
    have hname := isCompact_reference (fun n hn => hown n (List.mem_append_right _ hn)) style
    have harguments : ∀ text ∈ a.arguments.map (fun u => u.textIn style), IsNested text := by
      intro text htext
      obtain ⟨u, hu, rfl⟩ := List.mem_map.mp htext
      exact isNested_textIn (h.inPart hu) style
    have hangled : IsCompact (Printer.angledText (a.arguments.map (fun u => u.textIn style))) := by
      by_cases hnil : a.arguments.map (fun u => u.textIn style) = []
      · rw [hnil]
        exact isCompact_text ""
      · rw [Printer.angledText_of_ne_nil hnil]
        exact ⟨[], matched_angle harguments, List.not_mem_nil⟩
    exact (hname.append hangled).append (isCompact_questionText a.nullable)
  | .ofParameter v =>
    have hname : IsCompact v.name :=
      (hown v.name (List.mem_append_right _ List.mem_cons_self)).isCompact
    have hsuffix : IsCompact v.nullness.suffix := by
      match hnullness : v.nullness with
      | .plain => exact isCompact_text ""
      | .nullable => exact isCompact_text "?"
      | .definite => exact absurd ⟨decide_eq_true hnullness, hnotes⟩ hintersection
    exact hname.append hsuffix
  | .ofProjected w => exact absurd rfl (hprojection w)
  | .ofFunction _ => exact nomatch hparentheses
  | .dynamic => exact isCompact_text "dynamic"

/-- **An intersection is no unit**: it starts with a name and has blanks outside
of all brackets. -/
theorem IsIntersection.not_isUnit (h : t.IsIntersection) (hsolid : t.Solid) :
    ¬ IsUnit (t.textIn style) := by
  match t, h with
  | .ofParameter v, ⟨hdefinite, hnotes⟩ =>
    have hname : IsSolid v.name :=
      hsolid.here v.name (List.mem_append_right _ List.mem_cons_self)
    have htext : (ofParameter v).textIn style = v.name ++ " & Any" := by
      rw [TypeParameter.textIn_of_isDefinite hdefinite, hnotes, AnnotationUse.textsIn_nil,
        String.empty_append]
    have hsuffix : IsUnmarked " & Any" := by decide
    have hunmarked : ∀ c ∈ (v.name ++ " & Any").toList, c ∉ ['(', ')', '<', '>', '-'] := by
      intro c hc
      rw [String.toList_append] at hc
      exact (List.mem_append.mp hc).elim (hname.notMem_marks c) (hsuffix.notMem_marks c)
    rw [htext]
    rintro (⟨inner, heq, -⟩ | ⟨outside, hmatched, hblank⟩)
    · refine hunmarked '(' ?_ (by decide)
      rw [heq, String.toList_append, String.toList_append]
      exact List.mem_cons_self
    · rw [hmatched.eq_of_unmarked hunmarked, String.toList_append] at hblank
      exact hblank (List.mem_append_right _ (by decide))

end TypeRef

/-! ## Receivers -/

namespace FunctionType

/-- **How a receiver is written** before the dot, with its parentheses. -/
def receiverUnit (receiver : TypeRef) (style : Style) : String :=
  if receiver.needsParentheses then "(" ++ receiver.textIn style ++ ")" else receiver.textIn style

/-- The text of a function type with a receiver: what stands before the
receiver, the receiver, a dot, and the rest. -/
theorem textIn_of_receiver {f : FunctionType TypeRef} {receiver : TypeRef}
    (h : f.receiver = some receiver) (style : Style) :
    (TypeRef.ofFunction f).textIn style
      = AnnotationUse.textsIn f.annotations style ++ (if f.nullable then "(" else "")
          ++ (if f.suspending then "suspend " else "") ++ receiverUnit receiver style ++ "."
          ++ ("(" ++ ", ".intercalate (f.parameters.map (fun t => t.textIn style)) ++ ") -> "
            ++ f.result.textIn style ++ (if f.nullable then ")?" else "")) := by
  have hunit : receiverText receiver.needsParentheses (some (receiver.textIn style))
      = receiverUnit receiver style ++ "." := by
    unfold receiverUnit
    cases receiver.needsParentheses with
    | true =>
      have hmark : ")." = ")" ++ "." := rfl
      show "(" ++ receiver.textIn style ++ ")." = "(" ++ receiver.textIn style ++ ")" ++ "."
      rw [hmark, ← String.append_assoc]
    | false => rfl
  rw [TypeRef.textIn_eq_textOver]
  show AnnotationUse.textsIn f.annotations style ++ bodyText (f.map (fun u => u.textIn style))
    (f.receiver.any TypeRef.needsParentheses) = _
  unfold bodyText map
  rw [h]
  show _ ++ (_ ++ _ ++ receiverText receiver.needsParentheses (some (receiver.textIn style))
    ++ _ ++ _ ++ _ ++ _ ++ _) = _
  rw [hunit]
  simp only [String.append_assoc]

/-- **A receiver is written as one unit** exactly if it is no intersection. Of a
function type whose receiver is no projection and has solid names, what is
written between the keyword and the dot before its parameters is either in
parentheses of its own or without a blank outside of its brackets – unless the
receiver is a definite parameter without annotations, and then it is neither. -/
theorem isUnit_receiver_iff {f : FunctionType TypeRef} {receiver : TypeRef}
    (hreceiver : f.receiver = some receiver) (hprojection : ∀ w, receiver ≠ .ofProjected w)
    (hsolid : receiver.Solid) (style : Style) :
    ∃ unit, (TypeRef.ofFunction f).textIn style
        = AnnotationUse.textsIn f.annotations style ++ (if f.nullable then "(" else "")
          ++ (if f.suspending then "suspend " else "") ++ unit ++ "."
          ++ ("(" ++ ", ".intercalate (f.parameters.map (fun t => t.textIn style)) ++ ") -> "
            ++ f.result.textIn style ++ (if f.nullable then ")?" else ""))
      ∧ (IsUnit unit ↔ ¬ receiver.IsIntersection) := by
  refine ⟨receiverUnit receiver style, textIn_of_receiver hreceiver style, ?_⟩
  unfold receiverUnit
  cases hparentheses : receiver.needsParentheses with
  | true =>
    refine iff_of_true (.inl ⟨_, rfl, TypeRef.isNested_textIn hsolid style⟩) ?_
    match receiver with
    | .ofParameter v =>
      -- a parameter is in parentheses for its annotations only
      rintro ⟨-, hnotes⟩
      have hannotated : (!v.annotations.isEmpty) = true := hparentheses
      rw [hnotes] at hannotated
      exact nomatch hannotated
    | .ofClass _ | .ofApplied _ | .ofProjected _ | .ofFunction _ | .dynamic => exact id
  | false =>
    exact ⟨fun hunit hintersection => hintersection.not_isUnit hsolid hunit,
      fun h => .inr (TypeRef.isCompact_textIn hsolid hparentheses hprojection h)⟩

/-- `T & Any` has solid names. -/
theorem solid_definiteSequence : (TypeRef.ofParameter definiteSequence).Solid :=
  .intro (by decide) (List.forall_mem_singleton.mpr
    (.intro (by decide) (fun _ hu => absurd hu List.not_mem_nil)))

/-- `List<T & Any>` as a receiver, with blanks between its brackets. -/
theorem isUnit_receiver_iff_listOfDefinite :
    (TypeRef.ofApplied listOfDefinite).Solid
      ∧ ∃ unit, (TypeRef.ofFunction ((of [] .unit).setReceiver (.ofApplied listOfDefinite))).textIn
          .standard = "" ++ "" ++ "" ++ unit ++ "." ++ ("(" ++ "" ++ ") -> " ++ "Unit" ++ "")
        ∧ IsUnit unit := by
  have hsolid : (TypeRef.ofApplied listOfDefinite).Solid :=
    .intro (by decide) (List.forall_mem_singleton.mpr solid_definiteSequence)
  obtain ⟨unit, htext, hunit⟩ := isUnit_receiver_iff
    (f := (of [] .unit).setReceiver (.ofApplied listOfDefinite)) rfl nofun hsolid .standard
  exact ⟨hsolid, unit, htext, hunit.mpr id⟩

/-- The function type with the receiver `T & Any`, no parameters and no
result of interest. -/
def extensionOfDefinite : FunctionType TypeRef :=
  (of [] .unit).setReceiver (.ofParameter definiteSequence)

/-- **An intersection as a receiver is torn apart**: nothing keeps `T &` from
being read as a part of the whole function type. -/
theorem not_isUnit_receiver_definite :
    Obtainable false (.type (.ofFunction extensionOfDefinite))
      ∧ (TypeRef.ofFunction extensionOfDefinite).Solid
      ∧ (TypeRef.ofFunction extensionOfDefinite).textIn .standard
        = "T & Any" ++ "." ++ "() -> Unit"
      ∧ ¬ IsUnit "T & Any" := by
  have hunit : Obtainable false (.type .unit) := obtainable_topLevel false "kotlin" "Unit"
  have hplain : Obtainable false (.type (.ofFunction (of [] .unit))) :=
    .made (.function [] .unit) (List.forall_mem_singleton.mpr hunit)
  have hextension : Obtainable false (.type (.ofFunction extensionOfDefinite)) :=
    .made (.setReceiver _ _) (List.forall_mem_cons.mpr
      ⟨hplain, List.forall_mem_singleton.mpr (obtainable_definiteSequence false)⟩)
  have hsolidUnit : TypeRef.unit.Solid :=
    .intro (by decide) (fun _ hu => absurd hu List.not_mem_nil)
  have hsolid : (TypeRef.ofFunction extensionOfDefinite).Solid :=
    .intro (by decide) (List.forall_mem_cons.mpr
      ⟨solid_definiteSequence, List.forall_mem_singleton.mpr hsolidUnit⟩)
  have hintersection : (TypeRef.ofParameter definiteSequence).IsIntersection := ⟨rfl, rfl⟩
  have hnot : ¬ IsUnit ((TypeRef.ofParameter definiteSequence).textIn .standard) :=
    hintersection.not_isUnit solid_definiteSequence
  exact ⟨hextension, hsolid, by decide, hnot⟩

end FunctionType

end KotlinTypes
