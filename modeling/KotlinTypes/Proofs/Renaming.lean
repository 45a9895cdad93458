import KotlinTypes.Proofs.Obtainable
import KotlinTypes.Proofs.Written

/-!
# Other names for classes

A renaming takes every class to a class. Done to all classes in a type, at
every depth and in annotations too, it makes another type with everything else
in its place (`TypeRef.rename`).

The text of a type is woven from references to its classes and from words that
have nothing to do with them. So a renaming can be made up for by the style: if
each new class is referred to in one style as the old one was in another, the
new type is written in the one as the old type was in the other
(`TypeRef.textIn_rename`), and so are the generics of a declaration
(`Generics.render_rename`).

A renaming that leaves the classes of a type alone leaves the type alone
(`Value.rename_eq_self`). Applied to the renaming that leaves all classes
alone, this says that the reference to a class is all a type takes from the
style (`Value.textIn_congr`, `Generics.render_congr`).

Bounds are the one place where a class is looked at and not just written. A
renaming that neither moves `Any` nor moves another class there does not
disturb them: renamed bounds amount to what the bounds amounted to, renamed
(`Bounds.upper_map_rename`).
-/

namespace KotlinTypes

/-! ## Renaming at every depth -/

namespace AnnotationUse

variable (f : QualifiedName → QualifiedName)

mutual
/-- The use of an annotation class with all classes renamed. -/
def rename : AnnotationUse → AnnotationUse
  | ⟨name, nullable, annotations⟩ => ⟨f name, nullable, renameAll annotations⟩
  termination_by structural a => a
/-- Several uses of annotation classes with all classes renamed. -/
def renameAll : List AnnotationUse → List AnnotationUse
  | [] => []
  | a :: as => a.rename :: renameAll as
  termination_by structural as => as
end

@[simp] theorem renameAll_eq_map (as : List AnnotationUse) :
    renameAll f as = as.map (rename f) := by
  induction as with
  | nil => rfl
  | cons a as ih =>
    show a.rename f :: renameAll f as = _
    rw [ih]
    rfl

end AnnotationUse

/-- A reference to a class with all classes renamed. -/
def ClassRef.rename (f : QualifiedName → QualifiedName) (c : ClassRef) : ClassRef :=
  ⟨f c.name, c.nullable, c.annotations.map (AnnotationUse.rename f)⟩

namespace TypeRef

variable (f : QualifiedName → QualifiedName)

mutual
/-- **A type with all classes renamed**, those of its parts and of annotations
included. -/
def rename : TypeRef → TypeRef
  | .ofClass c => .ofClass (c.rename f)
  | .ofApplied ⟨base, arguments, nullable, annotations⟩ =>
      .ofApplied
        ⟨f base, renameAll arguments, nullable, annotations.map (AnnotationUse.rename f)⟩
  | .ofParameter ⟨name, bounds, variance, nullness, reified, annotations⟩ =>
      .ofParameter ⟨name, renameAll bounds, variance, nullness, reified,
        annotations.map (AnnotationUse.rename f)⟩
  | .ofProjected ⟨.star, annotations⟩ =>
      .ofProjected ⟨.star, annotations.map (AnnotationUse.rename f)⟩
  | .ofProjected ⟨.producer t, annotations⟩ =>
      .ofProjected ⟨.producer t.rename, annotations.map (AnnotationUse.rename f)⟩
  | .ofProjected ⟨.consumer t, annotations⟩ =>
      .ofProjected ⟨.consumer t.rename, annotations.map (AnnotationUse.rename f)⟩
  | .ofFunction ⟨none, parameters, result, suspending, nullable, annotations⟩ =>
      .ofFunction ⟨none, renameAll parameters, result.rename, suspending, nullable,
        annotations.map (AnnotationUse.rename f)⟩
  | .ofFunction ⟨some receiver, parameters, result, suspending, nullable, annotations⟩ =>
      .ofFunction ⟨some receiver.rename, renameAll parameters, result.rename, suspending, nullable,
        annotations.map (AnnotationUse.rename f)⟩
  | .dynamic => .dynamic
  termination_by structural t => t
/-- Several types with all classes renamed. -/
def renameAll : List TypeRef → List TypeRef
  | [] => []
  | t :: ts => t.rename :: renameAll ts
  termination_by structural ts => ts
end

@[simp] theorem renameAll_eq_map (ts : List TypeRef) : renameAll f ts = ts.map (rename f) := by
  induction ts with
  | nil => rfl
  | cons t ts ih =>
    show t.rename f :: renameAll f ts = _
    rw [ih]
    rfl

end TypeRef

/-- A type parameter with all classes renamed. -/
def TypeParameter.rename (f : QualifiedName → QualifiedName) (v : TypeParameter TypeRef) :
    TypeParameter TypeRef :=
  { v with
    bounds := v.bounds.map (TypeRef.rename f)
    annotations := v.annotations.map (AnnotationUse.rename f) }

/-- A value with all classes renamed. -/
def Value.rename (f : QualifiedName → QualifiedName) : Value → Value
  | .type t => .type (t.rename f)
  | .annotationUse a => .annotationUse (a.rename f)

namespace TypeRef

variable (f : QualifiedName → QualifiedName)

theorem rename_ofApplied (a : Applied TypeRef) :
    (ofApplied a).rename f = .ofApplied ⟨f a.base, a.arguments.map (rename f), a.nullable,
      a.annotations.map (AnnotationUse.rename f)⟩ := by
  rw [← renameAll_eq_map]
  rfl

theorem rename_ofParameter (v : TypeParameter TypeRef) :
    (ofParameter v).rename f = .ofParameter (v.rename f) := by
  unfold TypeParameter.rename
  rw [← renameAll_eq_map]
  rfl

theorem rename_ofProjected (w : Projected TypeRef) :
    (ofProjected w).rename f = .ofProjected ⟨w.projection.map (rename f),
      w.annotations.map (AnnotationUse.rename f)⟩ := by
  match w with
  | ⟨.star, _⟩ | ⟨.producer _, _⟩ | ⟨.consumer _, _⟩ => rfl

theorem rename_ofFunction (g : FunctionType TypeRef) :
    (ofFunction g).rename f = .ofFunction ⟨g.receiver.map (rename f), g.parameters.map (rename f),
      g.result.rename f, g.suspending, g.nullable, g.annotations.map (AnnotationUse.rename f)⟩ := by
  rw [← renameAll_eq_map]
  match g with
  | ⟨none, _, _, _, _, _⟩ | ⟨some _, _, _, _, _, _⟩ => rfl

/-- The annotations of a renamed type. -/
theorem annotations_rename (t : TypeRef) :
    (t.rename f).annotations = t.annotations.map (AnnotationUse.rename f) := by
  match t with
  | .ofClass _ | .dynamic => rfl
  | .ofApplied a => rw [rename_ofApplied]; rfl
  | .ofParameter v => rw [rename_ofParameter]; rfl
  | .ofProjected w => rw [rename_ofProjected]; rfl
  | .ofFunction g => rw [rename_ofFunction]; rfl

/-- A renamed receiver needs parentheses where the receiver does. -/
theorem needsParentheses_rename (t : TypeRef) :
    (t.rename f).needsParentheses = t.needsParentheses := by
  have hnotes : (!(t.rename f).annotations.isEmpty) = !t.annotations.isEmpty := by
    rw [annotations_rename, List.isEmpty_map]
  match t with
  | .ofClass _ | .dynamic => exact hnotes
  | .ofApplied a => rw [rename_ofApplied] at hnotes ⊢; exact hnotes
  | .ofParameter v => rw [rename_ofParameter] at hnotes ⊢; exact hnotes
  | .ofProjected w => rw [rename_ofProjected] at hnotes ⊢; exact hnotes
  | .ofFunction g => rw [rename_ofFunction]; rfl

end TypeRef

/-! ## Renamed types are written in another style -/

/-- The text of a value in a style. -/
def Value.textIn : Value → Style → String
  | .type t, style => t.textIn style
  | .annotationUse a, style => a.textIn style

section Texts

variable {f : QualifiedName → QualifiedName} {style style' : Style}

/-- A renamed annotation is written in another style. -/
theorem AnnotationUse.textIn_rename (h : ∀ q, (f q).reference style' = q.reference style)
    (a : AnnotationUse) : (a.rename f).textIn style' = a.textIn style := by
  obtain ⟨name, nullable, annotations⟩ := a
  rw [textIn_eq, textIn_eq]
  show "@" ++ (f name).reference style' = _
  rw [h]

/-- And so are several. -/
theorem AnnotationUse.textsIn_rename (h : ∀ q, (f q).reference style' = q.reference style)
    (annotations : List AnnotationUse) :
    textsIn (annotations.map (rename f)) style' = textsIn annotations style := by
  unfold textsIn
  rw [List.map_map]
  refine congrArg String.join (List.map_congr_left (fun a _ => ?_))
  show (a.rename f).textIn style' ++ " " = a.textIn style ++ " "
  rw [textIn_rename h]

/-- **A renamed type is written in another style.** -/
theorem TypeRef.textIn_rename (h : ∀ q, (f q).reference style' = q.reference style)
    (t : TypeRef) : (t.rename f).textIn style' = t.textIn style := by
  induction t using inductionOnParts with
  | step t ih =>
    have hall : ∀ ts : List TypeRef, (∀ u ∈ ts, u ∈ t.parts) →
        (ts.map (rename f)).map (fun u => u.textIn style') = ts.map (fun u => u.textIn style) := by
      intro ts hts
      rw [List.map_map]
      exact List.map_congr_left (fun u hu => ih u (hts u hu))
    rw [textIn_eq_textOver, textIn_eq_textOver]
    unfold textOver
    rw [annotations_rename, AnnotationUse.textsIn_rename h]
    refine congrArg (AnnotationUse.textsIn t.annotations style ++ ·) ?_
    cases t with
    | ofClass c =>
      show (f c.name).reference style' ++ _ = _
      rw [h]
      rfl
    | ofApplied a =>
      rw [rename_ofApplied]
      show (f a.base).reference style' ++ Printer.angledText
        ((a.arguments.map (rename f)).map (fun u => u.textIn style')) ++ _ = _
      rw [h, hall a.arguments (fun _ hu => hu)]
    | ofParameter v =>
      rw [rename_ofParameter]
      rfl
    | ofProjected w =>
      obtain ⟨projection, annotations⟩ := w
      rw [rename_ofProjected]
      refine congrArg Projection.text ?_
      cases projection with
      | star => rfl
      | producer type =>
        exact congrArg Projection.producer (ih type (List.mem_singleton_self type))
      | consumer type =>
        exact congrArg Projection.consumer (ih type (List.mem_singleton_self type))
    | ofFunction g =>
      obtain ⟨receiver, parameters, result, suspending, nullable, annotations⟩ := g
      rw [rename_ofFunction]
      show FunctionType.bodyText ⟨(receiver.map (rename f)).map (fun u => u.textIn style'),
        (parameters.map (rename f)).map (fun u => u.textIn style'), (result.rename f).textIn style',
        suspending, nullable, _⟩ ((receiver.map (rename f)).any needsParentheses) = _
      rw [hall parameters (fun _ hu => parameter_mem_parts hu), ih result (result_mem_parts _)]
      cases receiver with
      | none => rfl
      | some receiver =>
        show FunctionType.bodyText ⟨some ((receiver.rename f).textIn style'), _, _, _, _, _⟩
          (receiver.rename f).needsParentheses = _
        rw [ih receiver (receiver_mem_parts rfl), needsParentheses_rename]
        rfl
    | dynamic => rfl

/-- And so is a renamed value. -/
theorem Value.textIn_rename (h : ∀ q, (f q).reference style' = q.reference style) (v : Value) :
    (v.rename f).textIn style' = v.textIn style := by
  match v with
  | type t => exact t.textIn_rename h
  | annotationUse a => exact a.textIn_rename h

/-- What the entry of a renamed parameter says on bounds is written in another
style. -/
theorem TypeParameter.tailText_rename (h : ∀ q, (f q).reference style' = q.reference style)
    (v : TypeParameter TypeRef) : (v.rename f).tailText style' = v.tailText style := by
  obtain ⟨name, bounds, variance, nullness, reified, annotations⟩ := v
  cases bounds with
  | nil => rfl
  | cons bound rest =>
    cases rest with
    | nil =>
      show (if decide (nullness = .definite) then " & Any"
        else " : " ++ (bound.rename f).textIn style') = _
      rw [TypeRef.textIn_rename h]
      rfl
    | cons _ _ => rfl

/-- The entry of a renamed parameter is written in another style. -/
theorem TypeParameter.entry_rename (h : ∀ q, (f q).reference style' = q.reference style)
    (v : TypeParameter TypeRef) :
    (v.rename f).headText style' ++ (v.rename f).tailText style'
      = v.headText style ++ v.tailText style := by
  have hhead : (v.rename f).headText style' = v.headText style := by
    show AnnotationUse.textsIn (v.annotations.map (AnnotationUse.rename f)) style' ++ _ ++ _ ++ _
      = _
    rw [AnnotationUse.textsIn_rename h]
    rfl
  rw [hhead, tailText_rename h]

/-- The constraints of a renamed parameter are those of the parameter,
renamed. -/
theorem TypeParameter.constraints_rename (v : TypeParameter TypeRef) :
    (v.rename f).constraints = v.constraints.map (fun c => (c.1, c.2.rename f)) := by
  have hneeds : (v.rename f).needsWhere = v.needsWhere := by
    show (!v.isDefinite && decide (1 < (v.bounds.map (TypeRef.rename f)).length)) = _
    rw [List.length_map]
    rfl
  unfold constraints
  rw [hneeds]
  split
  · show (v.bounds.map (TypeRef.rename f)).map (fun bound => (v.name, bound)) = _
    rw [List.map_map, List.map_map]
    rfl
  · rfl

/-- **The generics of renamed parameters are written in another style.** -/
theorem Generics.render_rename (h : ∀ q, (f q).reference style' = q.reference style)
    (parameters : List (TypeParameter TypeRef)) :
    render (parameters.map (TypeParameter.rename f)) style' = render parameters style := by
  have hlist : (render (parameters.map (TypeParameter.rename f)) style').parameterList
      = (render parameters style).parameterList := by
    rw [parameterList_render, parameterList_render, List.map_map]
    exact congrArg Printer.angledText (List.map_congr_left (fun v _ => v.entry_rename h))
  have hconstraints : (render (parameters.map (TypeParameter.rename f)) style').constraints
      = (render parameters style).constraints := by
    have htext : ∀ c : String × TypeRef,
        constraintText style' (c.1, c.2.rename f) = constraintText style c := by
      intro c
      show c.1 ++ " : " ++ (c.2.rename f).textIn style' = _
      rw [TypeRef.textIn_rename h]
      rfl
    rw [constraints_render, constraints_render, List.flatMap_map]
    simp only [TypeParameter.constraints_rename, ← List.map_flatMap, List.map_map]
    exact congrArg (", ".intercalate ·) (List.map_congr_left (fun c _ => htext c))
  exact (Generics.mk.injEq ..).mpr ⟨hlist, hconstraints⟩

end Texts

/-! ## Classes left alone -/

/-- The class a value itself names: the class of a reference, the class that is
applied, or an annotation class. -/
def Value.className? : Value → Option QualifiedName
  | .type (.ofClass c) => some c.name
  | .type (.ofApplied a) => some a.base
  | .type (.ofParameter _) | .type (.ofProjected _) | .type (.ofFunction _) | .type .dynamic => none
  | .annotationUse a => some a.name

/-- **All classes of a value have a property**, at every depth. -/
def Value.AllClasses (P : QualifiedName → Prop) : Value → Prop :=
  Throughout parts (fun u => ∀ q, u.className? = some q → P q)

/-- A list is its own image where nothing in it is moved. -/
theorem map_eq_self {α : Type} {g : α → α} {xs : List α} (h : ∀ x ∈ xs, g x = x) :
    xs.map g = xs :=
  (List.map_congr_left h).trans (List.map_id xs)

/-- Renaming leaves a type alone when it leaves alone its class, its parts and
its annotations. -/
theorem TypeRef.rename_eq_self_of_parts {f : QualifiedName → QualifiedName} {t : TypeRef}
    (hclass : ∀ q, (Value.type t).className? = some q → f q = q)
    (hpart : ∀ u ∈ t.parts, u.rename f = u)
    (hnotes : t.annotations.map (AnnotationUse.rename f) = t.annotations) : t.rename f = t := by
  cases t with
  | ofClass c =>
    show TypeRef.ofClass ⟨f c.name, c.nullable, c.annotations.map (AnnotationUse.rename f)⟩ = _
    rw [hclass c.name rfl, show c.annotations.map _ = c.annotations from hnotes]
  | ofApplied a =>
    rw [rename_ofApplied, hclass a.base rfl,
      show a.arguments.map _ = a.arguments from map_eq_self hpart,
      show a.annotations.map _ = a.annotations from hnotes]
  | ofParameter v =>
    rw [rename_ofParameter, TypeParameter.rename,
      show v.bounds.map _ = v.bounds from map_eq_self hpart,
      show v.annotations.map _ = v.annotations from hnotes]
  | ofProjected w =>
    have hprojection : w.projection.map (rename f) = w.projection := by
      match w with
      | ⟨.star, _⟩ => rfl
      | ⟨.producer u, _⟩ =>
        exact congrArg Projection.producer (hpart u (List.mem_singleton_self u))
      | ⟨.consumer u, _⟩ =>
        exact congrArg Projection.consumer (hpart u (List.mem_singleton_self u))
    rw [rename_ofProjected, hprojection, show w.annotations.map _ = w.annotations from hnotes]
  | ofFunction g =>
    have hreceiver : g.receiver.map (rename f) = g.receiver := by
      match g with
      | ⟨none, _, _, _, _, _⟩ => rfl
      | ⟨some receiver, _, _, _, _, _⟩ =>
        exact congrArg some (hpart receiver (receiver_mem_parts rfl))
    rw [rename_ofFunction, hreceiver,
      map_eq_self (fun u hu => hpart u (parameter_mem_parts hu)),
      hpart g.result (result_mem_parts g), show g.annotations.map _ = g.annotations from hnotes]
  | dynamic => rfl

/-- **Renaming leaves a value alone** when it leaves all its classes alone. -/
theorem Value.rename_eq_self {f : QualifiedName → QualifiedName} {v : Value}
    (h : v.AllClasses (fun q => f q = q)) : v.rename f = v := by
  induction h with
  | @intro v hhere _ ih =>
    have hnotes : ∀ as : List AnnotationUse, (∀ a ∈ as, .annotationUse a ∈ v.parts) →
        as.map (AnnotationUse.rename f) = as := fun as has =>
      map_eq_self (fun a ha => Value.annotationUse.inj (ih _ (has a ha)))
    cases v with
    | annotationUse a =>
      obtain ⟨name, nullable, annotations⟩ := a
      show annotationUse ⟨f name, nullable, AnnotationUse.renameAll f annotations⟩ = _
      rw [AnnotationUse.renameAll_eq_map, hhere name rfl,
        hnotes annotations (fun _ ha => List.mem_map_of_mem ha)]
    | type t =>
      have hpart : ∀ u ∈ t.parts, u.rename f = u := fun u hu =>
        Value.type.inj (ih (.type u) (mem_parts_type.mpr (.inl ⟨u, hu, rfl⟩)))
      exact congrArg Value.type (TypeRef.rename_eq_self_of_parts hhere hpart
        (hnotes t.annotations (fun a ha => mem_parts_type.mpr (.inr ⟨a, ha, rfl⟩))))

/-- Renaming leaves parameters alone when it leaves all their classes alone. -/
theorem TypeParameter.map_rename_eq_self {f : QualifiedName → QualifiedName}
    {parameters : List (TypeParameter TypeRef)}
    (h : ∀ v ∈ parameters, (Value.type (.ofParameter v)).AllClasses (fun q => f q = q)) :
    parameters.map (rename f) = parameters := by
  refine map_eq_self (fun v hv => ?_)
  have hvalue := Value.type.inj (Value.rename_eq_self (h v hv))
  rw [TypeRef.rename_ofParameter] at hvalue
  exact TypeRef.ofParameter.inj hvalue

/-! ## A renaming that leaves all classes alone -/

/-- What holds of every value holds throughout an annotation. -/
theorem AnnotationUse.throughout_of_forall {P : Value → Prop} (h : ∀ v, P v) (a : AnnotationUse) :
    Throughout Value.parts P (.annotationUse a) := by
  refine .intro (h _) (fun u hu => ?_)
  obtain ⟨b, hb, rfl⟩ := List.mem_map.mp hu
  exact throughout_of_forall h b
termination_by sizeOf a
decreasing_by
  obtain ⟨name, nullable, annotations⟩ := a
  have hlt : sizeOf b < sizeOf annotations := List.sizeOf_lt_of_mem hb
  simp
  omega

/-- **What holds of every value holds throughout every value.** -/
theorem Value.throughout_of_forall {P : Value → Prop} (h : ∀ v, P v) (v : Value) :
    Throughout parts P v := by
  match v with
  | annotationUse a => exact a.throughout_of_forall h
  | type t =>
    induction t using TypeRef.inductionOnParts with
    | step t ih =>
      refine .intro (h _) (fun u hu => ?_)
      obtain ⟨w, hw, rfl⟩ | ⟨a, -, rfl⟩ := mem_parts_type.mp hu
      · exact ih w hw
      · exact a.throughout_of_forall h

/-- What holds of every class holds of all classes of a value. -/
theorem Value.allClasses_of_forall {P : QualifiedName → Prop} (h : ∀ q, P q) (v : Value) :
    v.AllClasses P :=
  throughout_of_forall (fun _ q _ => h q) v

/-- **Styles that refer to classes alike** write every value alike. -/
theorem Value.textIn_congr {style style' : Style}
    (h : ∀ q : QualifiedName, q.reference style' = q.reference style) (v : Value) :
    v.textIn style' = v.textIn style := by
  have hid : v.rename id = v := rename_eq_self (allClasses_of_forall (fun _ => rfl) v)
  have htext : (v.rename id).textIn style' = v.textIn style := textIn_rename h v
  rwa [hid] at htext

/-- And they write the generics of every declaration alike. -/
theorem Generics.render_congr {style style' : Style}
    (h : ∀ q : QualifiedName, q.reference style' = q.reference style)
    (parameters : List (TypeParameter TypeRef)) :
    render parameters style' = render parameters style := by
  have hid : parameters.map (TypeParameter.rename id) = parameters :=
    TypeParameter.map_rename_eq_self (fun _ _ => Value.allClasses_of_forall (fun _ => rfl) _)
  have hrender : render (parameters.map (TypeParameter.rename id)) style'
      = render parameters style := render_rename h parameters
  rwa [hid] at hrender

/-! ## Bounds of renamed parameters -/

/-- A type is `Any?` after a renaming exactly if it was before, where the
renaming neither moves `Any` nor moves another class there. -/
theorem TypeRef.isNullableAny_rename {f : QualifiedName → QualifiedName}
    (h : ∀ q, f q = .topLevel "kotlin" "Any" ↔ q = .topLevel "kotlin" "Any") (t : TypeRef) :
    (t.rename f).isNullableAny = t.isNullableAny := by
  refine decide_eq_decide.mpr ?_
  match t with
  | .ofClass ⟨q, nullable, annotations⟩ =>
    show TypeRef.ofClass ⟨f q, nullable, annotations.map (AnnotationUse.rename f)⟩
      = .ofClass ⟨.topLevel "kotlin" "Any", true, []⟩ ↔ TypeRef.ofClass ⟨q, nullable, annotations⟩
      = .ofClass ⟨.topLevel "kotlin" "Any", true, []⟩
    rw [TypeRef.ofClass.injEq, TypeRef.ofClass.injEq, ClassRef.mk.injEq, ClassRef.mk.injEq, h,
      List.map_eq_nil_iff]
  | .ofApplied a =>
    rw [rename_ofApplied]
    exact iff_of_false TypeRef.noConfusion TypeRef.noConfusion
  | .ofParameter v =>
    rw [rename_ofParameter]
    exact iff_of_false TypeRef.noConfusion TypeRef.noConfusion
  | .ofProjected w =>
    rw [rename_ofProjected]
    exact iff_of_false TypeRef.noConfusion TypeRef.noConfusion
  | .ofFunction g =>
    rw [rename_ofFunction]
    exact iff_of_false TypeRef.noConfusion TypeRef.noConfusion
  | .dynamic => exact Iff.rfl

namespace Bounds

variable {f : QualifiedName → QualifiedName}

/-- Renamed bounds constrain where the bounds do. -/
theorem constraining_map_rename
    (h : ∀ q, f q = .topLevel "kotlin" "Any" ↔ q = .topLevel "kotlin" "Any")
    (bounds : List TypeRef) :
    constraining (bounds.map (TypeRef.rename f))
      = (constraining bounds).map (TypeRef.rename f) := by
  unfold constraining
  rw [List.filter_map]
  refine congrArg (List.map _) (List.filter_congr (fun t _ => ?_))
  show (!(t.rename f).isNullableAny) = !t.isNullableAny
  rw [TypeRef.isNullableAny_rename h]

/-- **Renamed bounds amount to the upper bounds, renamed.** -/
theorem upper_map_rename (h : ∀ q, f q = .topLevel "kotlin" "Any" ↔ q = .topLevel "kotlin" "Any")
    (bounds : List TypeRef) :
    upper (bounds.map (TypeRef.rename f)) = (upper bounds).map (TypeRef.rename f) := by
  have hmap := constraining_map_rename h bounds
  by_cases hnil : constraining bounds = []
  · have hany : TypeRef.nullableAny.rename f = .nullableAny :=
      (TypeRef.isNullableAny_iff _).mp
        ((TypeRef.isNullableAny_rename h _).trans ((TypeRef.isNullableAny_iff _).mpr rfl))
    rw [upper_of_nil hnil, upper_of_nil (hmap.trans (congrArg _ hnil)), List.map_singleton, hany]
  · rw [upper_of_ne_nil hnil, upper_of_ne_nil (hmap ▸ fun h => hnil (List.map_eq_nil_iff.mp h)),
      hmap]

end Bounds

end KotlinTypes
