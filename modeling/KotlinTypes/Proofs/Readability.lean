import KotlinTypes.Proofs.Legible
import KotlinTypes.Proofs.Obtainable

/-!
# Unique readability

A text shows of a type what can be shown in source code at all. Classes and
type parameters of one name look alike, bounds are kept for the declaration,
and of an annotation there is only a reference – that much is lost, and the
visible structure is what remains of the type without it.

Nothing else is lost. Two types that can be obtained, of legible names, have
the same text in a style exactly when they have the same visible structure
(`TypeRef.textIn_eq_iff`). One direction is how texts are written, the other
is that they can be read back.

The condition on names says what a source file grants anyway: packages,
classes and parameters are named by words, and not by the words of the syntax.
The one on receivers is about the shape of types. Projections are arguments,
and a receiver that is one would take the parameters after it for its own.
-/

namespace KotlinTypes

namespace TypeRef

/-- Whether the type is an `out` or `in` projection without annotations. -/
def isBareProjection : TypeRef → Bool
  | .ofProjected ⟨.producer _, []⟩ | .ofProjected ⟨.consumer _, []⟩ => true
  | _ => false

/-- **Legible names**, as far as the type itself goes: its own name and those
of its annotations are legible, none is a word of the syntax, and its receiver
is no bare projection. -/
def HasLegibleNames (style : Style) (t : TypeRef) : Prop :=
  (∀ a ∈ t.annotations, a.name.Legible) ∧
    match t with
    | .ofClass c => c.name.Legible ∧ c.name.reference style ∉ syntaxWords
    | .ofApplied a => a.base.Legible ∧ a.base.reference style ∉ syntaxWords
    | .ofParameter v => IsWord v.name ∧ v.name ∉ syntaxWords
    | .ofFunction f => ∀ receiver, f.receiver = some receiver → receiver.isBareProjection = false
    | .ofProjected _ | .dynamic => True

/-- **A legible type**: its names are legible at every depth. -/
abbrev Legible (style : Style) : TypeRef → Prop :=
  Everywhere (HasLegibleNames style)

/-- A plain reference to a top-level class is legible if its name is. -/
theorem legible_topLevel {style : Style} {package name : String}
    (hname : (QualifiedName.topLevel package name).Legible)
    (hplain : (QualifiedName.topLevel package name).reference style ∉ syntaxWords) :
    (ofClass (.topLevel package name)).Legible style :=
  .intro ⟨fun _ ha => absurd ha List.not_mem_nil, hname, hplain⟩
    (fun _ hu => absurd hu List.not_mem_nil)

/-- A class of the package `kotlin` is legible if it is named by a word, and not
by one of the syntax. -/
theorem legible_kotlin (style : Style) {name : String} (hname : IsWord name)
    (hplain : name ∉ syntaxWords) : (kotlin name).Legible style := by
  refine legible_topLevel (QualifiedName.legible_topLevel (fun _ => by decide) hname) ?_
  rwa [QualifiedName.reference_kotlin]

/-- What shows of a type is a bare projection where the type is. -/
theorem isBareProjection_visible (style : Style) (t : TypeRef) :
    (t.visible style).isBareProjection = t.isBareProjection := by
  -- the annotations decide for projections; all other kinds fail by their shape
  match t with
  | .ofProjected ⟨.producer _, []⟩ | .ofProjected ⟨.consumer _, []⟩ => rfl
  | .ofProjected ⟨.producer _, _ :: _⟩ | .ofProjected ⟨.consumer _, _ :: _⟩ => rfl
  | .ofProjected ⟨.star, []⟩ | .ofProjected ⟨.star, _ :: _⟩ | .dynamic => rfl
  | .ofClass ⟨_, _, []⟩ | .ofClass ⟨_, _, _ :: _⟩ => rfl
  | .ofApplied ⟨_, _, _, []⟩ | .ofApplied ⟨_, _, _, _ :: _⟩ => rfl
  | .ofParameter ⟨_, _, _, .plain, _, []⟩ | .ofParameter ⟨_, _, _, .plain, _, _ :: _⟩
  | .ofParameter ⟨_, _, _, .nullable, _, []⟩ | .ofParameter ⟨_, _, _, .nullable, _, _ :: _⟩
  | .ofParameter ⟨_, _, _, .definite, _, []⟩ | .ofParameter ⟨_, _, _, .definite, _, _ :: _⟩ => rfl
  | .ofFunction ⟨none, _, _, _, _, []⟩ | .ofFunction ⟨none, _, _, _, _, _ :: _⟩
  | .ofFunction ⟨some _, _, _, _, _, []⟩ | .ofFunction ⟨some _, _, _, _, _, _ :: _⟩ => rfl

/-- **Legible types show legibly.** -/
theorem Legible.visible {style : Style} {t : TypeRef}
    (harguments : t.Everywhere (fun u => (Value.type u).HasArguments)) (h : t.Legible style) :
    (t.visible style).Legible := by
  induction t using inductionOnParts with
  | step t ih =>
    refine .intro ⟨?_, ?_⟩ (fun v hv => ?_)
    · intro note hnote
      rw [notes_visible] at hnote
      obtain ⟨a, ha, rfl⟩ := List.mem_map.mp hnote
      exact (h.here.1 a ha).isName_reference style
    · obtain ⟨-, hname⟩ := h.here
      match t with
      | .ofClass c => exact ⟨hname.1.isName_reference style, hname.2⟩
      | .ofApplied ⟨base, arguments, nullable, annotations⟩ =>
        refine ⟨⟨hname.1.isName_reference style, hname.2⟩, fun hnil => ?_⟩
        rw [visibles_eq_map] at hnil
        exact harguments.here (List.map_eq_nil_iff.mp hnil)
      | .ofParameter ⟨_, _, _, .plain, _, _⟩ | .ofParameter ⟨_, _, _, .nullable, _, _⟩
      | .ofParameter ⟨_, _, _, .definite, _, _⟩ => exact ⟨hname.1.isName, hname.2⟩
      | .ofProjected ⟨.star, _⟩ | .ofProjected ⟨.producer _, _⟩ | .ofProjected ⟨.consumer _, _⟩
      | .ofFunction ⟨none, _, _, _, _, _⟩ | .dynamic => trivial
      | .ofFunction ⟨some receiver, _, _, _, _, _⟩ =>
        show (receiver.visible style).isBareProjection = false
        rw [isBareProjection_visible]
        exact hname receiver rfl
    · obtain ⟨u, hu, rfl⟩ := exists_of_mem_parts_visible hv
      exact ih u hu (harguments.inPart hu) (h.inPart hu)

/-- **Unique readability.** In every style, two types that can be obtained, of
legible names, have the same text exactly when the same shows of them. -/
theorem textIn_eq_iff {style : Style} {t u : TypeRef} (ht : t.Obtainable) (hu : u.Obtainable)
    (htlegible : t.Legible style) (hulegible : u.Legible style) :
    t.textIn style = u.textIn style ↔ t.visible style = u.visible style := by
  rw [← text_visible, ← text_visible]
  refine ⟨fun h => ?_, congrArg Visible.text⟩
  have htvisible := htlegible.visible ht.hasArguments
  have huvisible := hulegible.visible hu.hasArguments
  exact htvisible.text_injective huvisible h

/-- The type `@Deprecated Comparable<in T>` over a type `T`. -/
def comparator (t : TypeRef) : Applied TypeRef :=
  ⟨.topLevel "kotlin" "Comparable", [.ofProjected (.consuming t)], false,
    [.of (.kotlin "Deprecated")]⟩

/-- The type `((@Deprecated Comparable<in T>).(String) -> Unit)?` over a type
`T`. -/
def handlerOf (t : TypeRef) : TypeRef :=
  .ofFunction ⟨some (.ofApplied (comparator t)), [.string], .unit, false, true, []⟩

/-- The function type over a type that can be obtained can be obtained, receiver
first. -/
theorem Obtainable.handlerOf {t : TypeRef} (h : t.Obtainable) : (handlerOf t).Obtainable := by
  have hkotlin : ∀ name : String, (kotlin name).Obtainable := obtainable_topLevel true "kotlin"
  have hprojected : (ofProjected (.consuming t)).Obtainable :=
    .made (.consuming t) (List.forall_mem_singleton.mpr h)
  have happlied : applied (.kotlin "Comparable") [ofProjected (.consuming t)]
      = .ok (.ofApplied { comparator t with annotations := [] }) := rfl
  have hbare : (ofApplied { comparator t with annotations := [] }).Obtainable :=
    .made (.applied happlied) (List.forall_mem_cons.mpr
      ⟨hkotlin "Comparable", List.forall_mem_singleton.mpr hprojected⟩)
  have hannotated : (ofApplied { comparator t with annotations := [] }).annotate
      [.of (.kotlin "Deprecated")] = .ok (.ofApplied (comparator t)) := rfl
  have hdeprecated : KotlinTypes.Obtainable true (.annotationUse (.of (.kotlin "Deprecated"))) :=
    .made (.annotationOf _) (List.forall_mem_singleton.mpr (hkotlin "Deprecated"))
  have hreceiver : (ofApplied (comparator t)).Obtainable :=
    .made (.annotate hannotated)
      (List.forall_mem_cons.mpr ⟨hbare, List.forall_mem_singleton.mpr hdeprecated⟩)
  have hfunction : (ofFunction (.of [string] unit)).Obtainable :=
    .made (.function [string] unit) (List.forall_mem_cons.mpr
      ⟨hkotlin "Unit", List.forall_mem_singleton.mpr (hkotlin "String")⟩)
  have hextension : (ofFunction ((FunctionType.of [string] unit).setReceiver
      (.ofApplied (comparator t)))).Obtainable :=
    .made (.setReceiver _ _)
      (List.forall_mem_cons.mpr ⟨hfunction, List.forall_mem_singleton.mpr hreceiver⟩)
  have hnullable : (ofFunction ((FunctionType.of [string] unit).setReceiver
      (.ofApplied (comparator t)))).setNullable true = .ok (.handlerOf t) := rfl
  exact .made (.setNullable hnullable) (List.forall_mem_singleton.mpr hextension)

/-- The function type over a legible type is legible. -/
theorem Legible.handlerOf {style : Style} {t : TypeRef} (h : t.Legible style) :
    (handlerOf t).Legible style := by
  have hprojected : (ofProjected (.consuming t)).Legible style :=
    .intro ⟨fun _ ha => absurd ha List.not_mem_nil, trivial⟩ (List.forall_mem_singleton.mpr h)
  have hcomparable : (kotlin "Comparable").Legible style :=
    legible_kotlin style (by decide) (by decide)
  have hdeprecated : (kotlin "Deprecated").Legible style :=
    legible_kotlin style (by decide) (by decide)
  have hreceiver : (ofApplied (comparator t)).Legible style :=
    .intro ⟨List.forall_mem_singleton.mpr hdeprecated.here.2.1, hcomparable.here.2⟩
      (List.forall_mem_singleton.mpr hprojected)
  have hstring : string.Legible style := legible_kotlin style (by decide) (by decide)
  have hunit : unit.Legible style := legible_kotlin style (by decide) (by decide)
  -- the receiver is an applied class and so no bare projection
  refine .intro ⟨fun _ ha => absurd ha List.not_mem_nil, fun _ heq => Option.some.inj heq ▸ rfl⟩ ?_
  exact List.forall_mem_cons.mpr ⟨hreceiver, List.forall_mem_cons.mpr
    ⟨hstring, List.forall_mem_singleton.mpr hunit⟩⟩

/-- A parameter `T` and a class `T` of the root package are two types that
look alike, and so they do deep in a function type. -/
theorem textIn_eq_iff_parameter_class :
    (ofParameter (.unbounded "T")).Obtainable ∧ (ofClass (.topLevel "" "T")).Obtainable
      ∧ (ofParameter (.unbounded "T")).Legible .standard
      ∧ (ofClass (.topLevel "" "T")).Legible .standard
      ∧ ((ofParameter (.unbounded "T")).textIn .standard
            = (ofClass (.topLevel "" "T")).textIn .standard
          ↔ (ofParameter (.unbounded "T")).visible .standard
            = (ofClass (.topLevel "" "T")).visible .standard)
      ∧ (handlerOf (ofParameter (.unbounded "T"))).Obtainable
      ∧ (handlerOf (ofClass (.topLevel "" "T"))).Obtainable
      ∧ (handlerOf (ofParameter (.unbounded "T"))).Legible .standard
      ∧ (handlerOf (ofClass (.topLevel "" "T"))).Legible .standard
      ∧ ((handlerOf (ofParameter (.unbounded "T"))).textIn .standard
            = (handlerOf (ofClass (.topLevel "" "T"))).textIn .standard
          ↔ (handlerOf (ofParameter (.unbounded "T"))).visible .standard
            = (handlerOf (ofClass (.topLevel "" "T"))).visible .standard)
      ∧ (handlerOf (ofClass (.topLevel "" "T"))).textIn .standard
        = "((@Deprecated Comparable<in T>).(String) -> Unit)?" := by
  have hparameter : (ofParameter (.unbounded "T")).Obtainable :=
    .made (.parameter (c := .unbounded "T") rfl) (fun _ hu => absurd hu List.not_mem_nil)
  have hclass : (ofClass (.topLevel "" "T")).Obtainable := obtainable_topLevel true "" "T"
  have hword : IsWord "T" := by decide
  have hparameterLegible : (ofParameter (.unbounded "T")).Legible .standard :=
    .intro ⟨fun _ ha => absurd ha List.not_mem_nil, hword, by decide⟩
      (fun _ hu => absurd hu List.not_mem_nil)
  have hclassLegible : (ofClass (.topLevel "" "T")).Legible .standard :=
    legible_topLevel (QualifiedName.legible_topLevel (absurd rfl) hword) (by decide)
  refine ⟨hparameter, hclass, hparameterLegible, hclassLegible,
    textIn_eq_iff hparameter hclass hparameterLegible hclassLegible, hparameter.handlerOf,
    hclass.handlerOf, hparameterLegible.handlerOf, hclassLegible.handlerOf, ?_, by decide⟩
  exact textIn_eq_iff hparameter.handlerOf hclass.handlerOf hparameterLegible.handlerOf
    hclassLegible.handlerOf

end TypeRef

end KotlinTypes
