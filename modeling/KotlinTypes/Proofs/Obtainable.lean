import KotlinTypes.Proofs.Ledger
import KotlinTypes.Proofs.Markings
import KotlinTypes.Proofs.Parts

/-!
# What can be obtained

Not every type that can be written down as data can be obtained. The parts of
some kinds are private, so that their values come from constructors and copies
alone – and these see to it that an applied class has arguments and that
`Any?` is no written bound. `Obtainable` is the closure: a value is obtainable
when it is made from obtainable values, or found in one.

Some kinds have public parts: annotations, projections and function types.
Their values can also be written down directly, as literals. Whether that is
allowed is a parameter of everything below, since some properties survive
literals and some do not.

What holds of every value at every depth is proved one step at a time. No step
takes parts from anywhere but from what it is given (`Makes.parts_given`), so a
property that every step gives its own value holds throughout all obtainable
values (`Obtainable.throughout`).
-/

namespace KotlinTypes

/-- **A value of the library**: a type, where a class, a parameter and so on
count as the types they make, or an annotation. -/
inductive Value where
  /-- A type. -/
  | type (t : TypeRef)
  /-- An annotation. -/
  | annotationUse (a : AnnotationUse)

/-- The parts of a value: the types that stand in a type directly, and the
annotations of a type or of an annotation class. -/
def Value.parts : Value → List Value
  | .type t => t.parts.map .type ++ t.annotations.map .annotationUse
  | .annotationUse a => a.annotations.map .annotationUse

/-- The bounds a construction is given. -/
def Construction.bounds : Construction → List TypeRef
  | .unbounded _ | .ofModifier .. => []
  | .ofBounds _ bounds | .declared _ _ bounds => bounds

/-- The values a change is given. -/
def Change.given : Change → List Value
  | .setNullable _ | .setReified _ | .definite => []
  | .setBounds bounds | .addBounds bounds => bounds.map .type
  | .annotate annotations => annotations.map .annotationUse

/-- **One step**: a constructor or a copy makes a value from given ones. With
`literals`, values of public parts may be written down too. -/
inductive Makes (literals : Bool) : List Value → Value → Prop where
  /-- A top-level class. -/
  | topLevel (package name : String) :
      Makes literals [] (.type (.ofClass (.topLevel package name)))
  /-- A class by its canonical name. -/
  | ofCanonical {text : String} {c : ClassRef} (h : ClassRef.ofCanonical text = .ok c) :
      Makes literals [] (.type (.ofClass c))
  /-- A nested class. -/
  | nest (c : ClassRef) (name : String) :
      Makes literals [.type (.ofClass c)] (.type (.ofClass (c.nest name)))
  /-- A class without its annotations. -/
  | unannotated (c : ClassRef) :
      Makes literals [.type (.ofClass c)] (.type (.ofClass c.unannotated))
  /-- A class applied to arguments. -/
  | applied {c : ClassRef} {arguments : List TypeRef} {t : TypeRef}
      (h : TypeRef.applied c arguments = .ok t) :
      Makes literals (.type (.ofClass c) :: arguments.map .type) (.type t)
  /-- One more argument. -/
  | addArgument (a : Applied TypeRef) (t : TypeRef) :
      Makes literals [.type (.ofApplied a), .type t] (.type (.ofApplied (a.addArgument t)))
  /-- The class that is applied. -/
  | baseClass (a : Applied TypeRef) :
      Makes literals [.type (.ofApplied a)] (.type (.ofClass a.baseClass))
  /-- The projection `*`. -/
  | star : Makes literals [] (.type (.ofProjected .star))
  /-- An `out` projection. -/
  | producing (t : TypeRef) : Makes literals [.type t] (.type (.ofProjected (.producing t)))
  /-- An `in` projection. -/
  | consuming (t : TypeRef) : Makes literals [.type t] (.type (.ofProjected (.consuming t)))
  /-- A function type. -/
  | function (parameters : List TypeRef) (result : TypeRef) :
      Makes literals (.type result :: parameters.map .type)
        (.type (.ofFunction (.of parameters result)))
  /-- A receiver. -/
  | setReceiver (f : FunctionType TypeRef) (t : TypeRef) :
      Makes literals [.type (.ofFunction f), .type t] (.type (.ofFunction (f.setReceiver t)))
  /-- Suspending or not. -/
  | setSuspending (f : FunctionType TypeRef) (suspending : Bool) :
      Makes literals [.type (.ofFunction f)] (.type (.ofFunction (f.setSuspending suspending)))
  /-- A type parameter. -/
  | parameter {c : Construction} {v : TypeParameter TypeRef} (h : TypeParameter.make c = .ok v) :
      Makes literals (c.bounds.map .type) (.type (.ofParameter v))
  /-- A change of a type parameter. -/
  | change {v w : TypeParameter TypeRef} {c : Change} (h : v.applyTo c = .ok w) :
      Makes literals (.type (.ofParameter v) :: c.given) (.type (.ofParameter w))
  /-- The type `dynamic`. -/
  | dynamic : Makes literals [] (.type .dynamic)
  /-- Another nullability. -/
  | setNullable {t u : TypeRef} {nullable : Bool} (h : t.setNullable nullable = .ok u) :
      Makes literals [.type t] (.type u)
  /-- More annotations. -/
  | annotate {t u : TypeRef} {annotations : List AnnotationUse}
      (h : t.annotate annotations = .ok u) :
      Makes literals (.type t :: annotations.map .annotationUse) (.type u)
  /-- The use of a class as an annotation. -/
  | annotationOf (c : ClassRef) : Makes literals [.type (.ofClass c)] (.annotationUse (.of c))
  /-- The class of an annotation. -/
  | classRef (a : AnnotationUse) : Makes literals [.annotationUse a] (.type (.ofClass a.classRef))
  /-- An annotation, written down. -/
  | verbatim (h : literals = true) (c : ClassRef) :
      Makes literals [.type (.ofClass c)] (.annotationUse (.verbatim c))
  /-- A projection, written down. -/
  | projected (h : literals = true) (w : Projected TypeRef) :
      Makes literals (Value.type (.ofProjected w)).parts (.type (.ofProjected w))
  /-- A function type, written down. -/
  | functionType (h : literals = true) (f : FunctionType TypeRef) :
      Makes literals (Value.type (.ofFunction f)).parts (.type (.ofFunction f))

/-- **What can be obtained**: what is made from obtainable values, and what is
found in one. The upper bounds of a parameter need no mention: they are parts
of it, or `Any?`, which can be made. -/
inductive Obtainable (literals : Bool) : Value → Prop where
  /-- Made from obtainable values. -/
  | made {given : List Value} {v : Value} (h : Makes literals given v)
      (hgiven : ∀ u ∈ given, Obtainable literals u) : Obtainable literals v
  /-- Found in an obtainable value. -/
  | found {v u : Value} (hv : Obtainable literals v) (hu : u ∈ v.parts) : Obtainable literals u

/-- A top-level class can be obtained, whatever there is. -/
theorem obtainable_topLevel (literals : Bool) (package name : String) :
    Obtainable literals (.type (.ofClass (.topLevel package name))) :=
  .made (.topLevel package name) (fun _ hu => absurd hu List.not_mem_nil)

/-! ## Steps keep to what they are given -/

/-- What comes out of a mapped result comes from a result. -/
theorem exists_of_map_eq_ok {α β : Type} {f : α → β} {r : Except Rejection α} {b : β}
    (h : r.map f = .ok b) : ∃ a, r = .ok a ∧ f a = b := by
  match r with
  | .error e => exact nomatch h
  | .ok a => exact ⟨a, rfl, Except.ok.inj h⟩

/-- Another nullability leaves the parts alone. -/
theorem TypeRef.parts_setNullable {t u : TypeRef} {nullable : Bool}
    (h : t.setNullable nullable = .ok u) : (Value.type u).parts = (Value.type t).parts := by
  obtain ⟨-, rfl⟩ := (t.guarded_setNullable nullable).eq_ok_iff.mp h
  cases t <;> rfl

/-- More annotations leave the types in a type alone, and come after its
annotations. -/
theorem TypeRef.parts_annotate {t u : TypeRef} {annotations : List AnnotationUse}
    (h : t.annotate annotations = .ok u) :
    u.parts = t.parts ∧ u.annotations = t.annotations ++ annotations := by
  obtain ⟨htakes, rfl⟩ := (t.guarded_annotate annotations).eq_ok_iff.mp h
  refine ⟨?_, annotations_noted htakes⟩
  cases t <;> rfl

namespace TypeRef

/-- **A copy of a type** is a type of the same kind with the same things in it.
Only what it says about `null` and its annotations may be others, and a
parameter is changed by its own rules. -/
inductive CopyOf : TypeRef → TypeRef → Prop where
  /-- A class. -/
  | ofClass (c : ClassRef) (nullable : Bool) (annotations : List AnnotationUse) :
      CopyOf (.ofClass c) (.ofClass { c with nullable, annotations })
  /-- A class with arguments. -/
  | ofApplied (a : Applied TypeRef) (nullable : Bool) (annotations : List AnnotationUse) :
      CopyOf (.ofApplied a) (.ofApplied { a with nullable, annotations })
  /-- A parameter. -/
  | ofParameter {v w : TypeParameter TypeRef} {c : Change} (h : v.applyTo c = .ok w) :
      CopyOf (.ofParameter v) (.ofParameter w)
  /-- A projection. -/
  | ofProjected (w : Projected TypeRef) (annotations : List AnnotationUse) :
      CopyOf (.ofProjected w) (.ofProjected { w with annotations })
  /-- A function type. -/
  | ofFunction (f : FunctionType TypeRef) (nullable : Bool) (annotations : List AnnotationUse) :
      CopyOf (.ofFunction f) (.ofFunction { f with nullable, annotations })
  /-- The type `dynamic`. -/
  | dynamic : CopyOf .dynamic .dynamic

/-- Another nullability makes a copy. -/
theorem copyOf_of_setNullable {t u : TypeRef} {nullable : Bool}
    (h : t.setNullable nullable = .ok u) : CopyOf t u := by
  obtain ⟨-, rfl⟩ := (t.guarded_setNullable nullable).eq_ok_iff.mp h
  cases t with
  | ofClass c => exact .ofClass c nullable c.annotations
  | ofApplied a => exact .ofApplied a nullable a.annotations
  | ofParameter v =>
    obtain ⟨w, hw, hmarked⟩ := exists_of_map_eq_ok h
    exact hmarked ▸ .ofParameter (c := .setNullable nullable) hw
  | ofProjected w => exact .ofProjected w w.annotations
  | ofFunction f => exact .ofFunction f nullable f.annotations
  | dynamic => exact .dynamic

/-- More annotations make a copy. -/
theorem copyOf_of_annotate {t u : TypeRef} {annotations : List AnnotationUse}
    (h : t.annotate annotations = .ok u) : CopyOf t u := by
  obtain ⟨-, rfl⟩ := (t.guarded_annotate annotations).eq_ok_iff.mp h
  cases t with
  | ofClass c => exact .ofClass c c.nullable (c.annotations ++ annotations)
  | ofApplied a => exact .ofApplied a a.nullable (a.annotations ++ annotations)
  | ofParameter v => exact .ofParameter (c := .annotate annotations) rfl
  | ofProjected w => exact .ofProjected w (w.annotations ++ annotations)
  | ofFunction f => exact .ofFunction f f.nullable (f.annotations ++ annotations)
  | dynamic => exact .dynamic

end TypeRef

/-- A parameter has bounds among those its construction is given, and no
annotations. -/
theorem TypeParameter.parts_make {c : Construction} {v : TypeParameter TypeRef}
    (h : make c = .ok v) : (∀ t ∈ v.bounds, t ∈ c.bounds) ∧ v.annotations = [] := by
  have hbounds : ∀ (bounds : List TypeRef), ∀ t ∈ Bounds.constraining bounds, t ∈ bounds :=
    fun _ _ ht => (List.mem_filter.mp ht).1
  have hdeclared : ∀ {name : String} {modifier : Option Modifier} {bounds : List TypeRef},
      declared name modifier bounds = .ok v →
        (∀ t ∈ v.bounds, t ∈ bounds) ∧ v.annotations = [] := by
    intro name modifier bounds h
    unfold declared at h
    split at h
    · cases h
      exact ⟨hbounds bounds, rfl⟩
    · exact nomatch h
  cases c with
  | unbounded name => cases h; exact ⟨hbounds [], rfl⟩
  | ofBounds name bounds => cases h; exact ⟨hbounds bounds, rfl⟩
  | ofModifier name modifier => exact hdeclared h
  | declared name modifier bounds => exact hdeclared h

/-- The definite form is entered from a plain parameter, and nothing else about
it changes. -/
theorem TypeParameter.definite_eq_ok {v d : TypeParameter TypeRef} (h : v.definite = .ok d) :
    v.nullness = .plain ∧ d = { v with nullness := .definite } := by
  unfold definite at h
  split at h
  · exact nomatch h
  · exact nomatch h
  · next hplain =>
    split at h
    · split at h
      · exact nomatch h
      · exact ⟨hplain, (Except.ok.inj h).symm⟩
    · exact ⟨hplain, (Except.ok.inj h).symm⟩

/-- A change gives a parameter no bounds and no annotations but its own and
the given ones. -/
theorem TypeParameter.parts_applyTo {v w : TypeParameter TypeRef} {c : Change}
    (h : v.applyTo c = .ok w) :
    (∀ t ∈ w.bounds, t ∈ v.bounds ∨ .type t ∈ c.given)
      ∧ (∀ a ∈ w.annotations, a ∈ v.annotations ∨ .annotationUse a ∈ c.given) := by
  have hsetBounds : ∀ {bounds : List TypeRef}, v.setBounds bounds = .ok w →
      w.bounds = Bounds.constraining bounds ∧ w.annotations = v.annotations := by
    intro bounds h
    unfold setBounds at h
    split at h
    · exact nomatch h
    · cases h
      exact ⟨rfl, rfl⟩
  cases c with
  | setReified reified => cases h; exact ⟨fun _ ht => .inl ht, fun _ ha => .inl ha⟩
  | annotate annotations =>
    cases h
    refine ⟨fun _ ht => .inl ht, fun a ha => ?_⟩
    obtain hown | hnew := List.mem_append.mp ha
    · exact .inl hown
    · exact .inr (List.mem_map_of_mem hnew)
  | setNullable nullable =>
    have hset : (TypeRef.ofParameter v).setNullable nullable = .ok (.ofParameter w) :=
      congrArg (Except.map TypeRef.ofParameter) h
    obtain ⟨-, hmarked⟩ := ((TypeRef.ofParameter v).guarded_setNullable nullable).eq_ok_iff.mp hset
    obtain rfl := TypeRef.ofParameter.inj hmarked
    exact ⟨fun _ ht => .inl ht, fun _ ha => .inl ha⟩
  | definite =>
    obtain ⟨-, rfl⟩ := definite_eq_ok h
    exact ⟨fun _ ht => .inl ht, fun _ ha => .inl ha⟩
  | setBounds bounds =>
    obtain ⟨hbounds, hannotations⟩ := hsetBounds h
    refine ⟨fun t ht => .inr ?_, fun _ ha => .inl (hannotations ▸ ha)⟩
    rw [hbounds] at ht
    exact List.mem_map_of_mem (List.mem_filter.mp ht).1
  | addBounds bounds =>
    obtain ⟨hbounds, hannotations⟩ := hsetBounds h
    refine ⟨fun t ht => ?_, fun _ ha => .inl (hannotations ▸ ha)⟩
    -- the upper bounds may hold an `Any?` of their own, but that does not constrain
    rw [hbounds, Bounds.constraining_append, upperBounds, Bounds.constraining_upper] at ht
    obtain hown | hnew := List.mem_append.mp ht
    · exact .inl (List.mem_filter.mp hown).1
    · exact .inr (List.mem_map_of_mem (List.mem_filter.mp hnew).1)

/-- An applied class that can be made has the arguments it is given, one at
least, and no annotations. -/
theorem TypeRef.applied_eq_ok {c : ClassRef} {arguments : List TypeRef} {t : TypeRef}
    (h : applied c arguments = .ok t) :
    arguments ≠ [] ∧ t = .ofApplied ⟨c.name, arguments, false, []⟩ := by
  obtain ⟨a, ha, rfl⟩ := exists_of_map_eq_ok h
  unfold Applied.of at ha
  split at ha
  · exact nomatch ha
  · next hne =>
    cases ha
    exact ⟨fun hnil => hne (List.isEmpty_iff.mpr hnil), rfl⟩

/-- A part of a type is a type that stands in it or an annotation of it. -/
theorem Value.mem_parts_type {t : TypeRef} {u : Value} :
    u ∈ (Value.type t).parts
      ↔ (∃ w ∈ t.parts, u = .type w) ∨ ∃ a ∈ t.annotations, u = .annotationUse a := by
  unfold parts
  simp only [List.mem_append, List.mem_map, eq_comm]

/-- **A value comes from given ones** when it is one of them, or a part of
one. -/
def FromGiven (given : List Value) (u : Value) : Prop :=
  u ∈ given ∨ ∃ g ∈ given, u ∈ g.parts

namespace FromGiven

variable {given : List Value} {g u : Value} {t : TypeRef}

/-- Parts of the first given value come from the given ones. -/
theorem of_first (h : u ∈ g.parts) : FromGiven (g :: given) u :=
  .inr ⟨g, List.mem_cons_self, h⟩

/-- The other given values come from the given ones. -/
theorem of_rest (h : u ∈ given) : FromGiven (g :: given) u :=
  .inl (List.mem_cons_of_mem g h)

/-- The types in the first given type come from the given values. -/
theorem of_type {w : TypeRef} (h : w ∈ t.parts) : FromGiven (.type t :: given) (.type w) :=
  of_first (Value.mem_parts_type.mpr (.inl ⟨w, h, rfl⟩))

/-- The annotations of the first given type come from the given values. -/
theorem of_annotations {a : AnnotationUse} (h : a ∈ t.annotations) :
    FromGiven (.type t :: given) (.annotationUse a) :=
  of_first (Value.mem_parts_type.mpr (.inr ⟨a, h, rfl⟩))

/-- All parts of a type come from given values when the types in it and its
annotations do. -/
theorem of_mem_parts (hu : u ∈ (Value.type t).parts)
    (htypes : ∀ w ∈ t.parts, FromGiven given (.type w))
    (hannotations : ∀ a ∈ t.annotations, FromGiven given (.annotationUse a)) :
    FromGiven given u := by
  obtain ⟨w, hw, rfl⟩ | ⟨a, ha, rfl⟩ := Value.mem_parts_type.mp hu
  · exact htypes w hw
  · exact hannotations a ha

end FromGiven

/-- **A step keeps to what it is given**: every part of the value it makes
comes from the given values. -/
theorem Makes.parts_given {literals : Bool} {given : List Value} {v u : Value}
    (h : Makes literals given v) (hu : u ∈ v.parts) : FromGiven given u := by
  -- a new value has no parts, those of the first given value, or these and other given values
  cases h with
  | topLevel package name => exact absurd hu List.not_mem_nil
  | ofCanonical h =>
    obtain ⟨q, -, rfl⟩ := exists_of_map_eq_ok h
    exact absurd hu List.not_mem_nil
  | nest c name => exact absurd hu List.not_mem_nil
  | unannotated c => exact absurd hu List.not_mem_nil
  | applied h =>
    obtain ⟨-, rfl⟩ := TypeRef.applied_eq_ok h
    refine .of_mem_parts hu (fun w hw => ?_) (fun _ ha => absurd ha List.not_mem_nil)
    exact .of_rest (List.mem_map_of_mem hw)
  | addArgument a t =>
    refine .of_mem_parts hu (fun w hw => ?_) (fun _ ha => .of_annotations ha)
    obtain hold | hnew := List.mem_append.mp hw
    · exact .of_type hold
    · rw [List.mem_singleton.mp hnew]
      exact .of_rest List.mem_cons_self
  | baseClass a => exact absurd hu List.not_mem_nil
  | star => exact absurd hu List.not_mem_nil
  | producing t =>
    unfold Projected.producing at hu
    split at hu
    · exact absurd hu List.not_mem_nil
    · exact .inl hu
  | consuming t => exact .inl hu
  | function parameters result =>
    refine .of_mem_parts hu (fun w hw => ?_) (fun _ ha => absurd ha List.not_mem_nil)
    obtain hreceiver | hparameter | rfl := (TypeRef.mem_parts_ofFunction _ w).mp hw
    · exact nomatch hreceiver
    · exact .of_rest (List.mem_map_of_mem hparameter)
    · exact .inl List.mem_cons_self
  | setReceiver f t =>
    refine .of_mem_parts hu (fun w hw => ?_) (fun _ ha => .of_annotations ha)
    obtain hreceiver | hother := (TypeRef.mem_parts_ofFunction _ w).mp hw
    · rw [← Option.some.inj hreceiver]
      exact .of_rest List.mem_cons_self
    · exact .of_type ((TypeRef.mem_parts_ofFunction f w).mpr (.inr hother))
  | setSuspending f suspending => exact .of_first hu
  | parameter h =>
    obtain ⟨hbounds, hannotations⟩ := TypeParameter.parts_make h
    refine .of_mem_parts hu (fun w hw => .inl (List.mem_map_of_mem (hbounds w hw)))
      (fun a ha => ?_)
    rw [TypeRef.annotations, hannotations] at ha
    exact absurd ha List.not_mem_nil
  | change h =>
    obtain ⟨hbounds, hannotations⟩ := TypeParameter.parts_applyTo h
    refine .of_mem_parts hu (fun w hw => ?_) (fun a ha => ?_)
    · obtain hold | hnew := hbounds w hw
      · exact .of_type hold
      · exact .of_rest hnew
    · obtain hold | hnew := hannotations a ha
      · exact .of_annotations hold
      · exact .of_rest hnew
  | dynamic => exact absurd hu List.not_mem_nil
  | setNullable h => exact .of_first (TypeRef.parts_setNullable h ▸ hu)
  | annotate h =>
    obtain ⟨hparts, hannotations⟩ := TypeRef.parts_annotate h
    refine .of_mem_parts hu (fun w hw => .of_type (hparts ▸ hw)) (fun a ha => ?_)
    obtain hold | hnew := List.mem_append.mp (hannotations ▸ ha)
    · exact .of_annotations hold
    · exact .of_rest (List.mem_map_of_mem hnew)
  | annotationOf c => exact absurd hu List.not_mem_nil
  | classRef a => exact .of_first hu
  | verbatim h c => exact .of_first hu
  | projected h w => exact .inl hu
  | functionType h f => exact .inl hu

/-! ## Every obtainable value -/

/-- **What every step gives its value holds throughout all obtainable
values.** -/
theorem Obtainable.throughout {literals : Bool} {P : Value → Prop}
    (hstep : ∀ {given v}, Makes literals given v → (∀ u ∈ given, Throughout Value.parts P u) → P v)
    {v : Value} (h : Obtainable literals v) : Throughout Value.parts P v := by
  induction h with
  | made hmakes _ ih =>
    -- what stands in the new value was given, or stands in something given
    refine .intro (hstep hmakes ih) (fun u hu => ?_)
    obtain hgiven | ⟨g, hg, hpart⟩ := hmakes.parts_given hu
    · exact ih u hgiven
    · exact (ih g hg).inPart hpart
  | found _ hu ih => exact ih.inPart hu

/-- What holds throughout a value holds throughout the types in it. -/
theorem TypeRef.everywhere_of_throughout {P : Value → Prop} {t : TypeRef}
    (h : Throughout Value.parts P (.type t)) : t.Everywhere (fun u => P (.type u)) := by
  induction t using inductionOnParts with
  | step t ih =>
    refine .intro h.here (fun u hu => ih u hu (h.inPart ?_))
    exact Value.mem_parts_type.mpr (.inl ⟨u, hu, rfl⟩)

/-- **A type that can be obtained**, with or without literals. -/
def TypeRef.Obtainable (t : TypeRef) : Prop :=
  KotlinTypes.Obtainable true (.type t)

/-- **Applied classes have arguments**, as far as the value itself goes. -/
def Value.HasArguments : Value → Prop
  | .type (.ofApplied a) => a.arguments ≠ []
  | _ => True

/-- A copy of an applied class has the same arguments. -/
theorem Value.HasArguments.copyOf {t u : TypeRef} (h : (Value.type t).HasArguments)
    (hcopy : t.CopyOf u) : (Value.type u).HasArguments := by
  cases hcopy with
  | ofApplied a nullable annotations => exact h
  | _ => trivial

/-- Every step gives arguments to the applied classes it makes. -/
theorem Makes.hasArguments {literals : Bool} {given : List Value} {v : Value}
    (h : Makes literals given v) (hgiven : ∀ u ∈ given, u.HasArguments) : v.HasArguments := by
  cases h with
  | applied h =>
    obtain ⟨hne, rfl⟩ := TypeRef.applied_eq_ok h
    exact hne
  | addArgument a t => exact List.append_ne_nil_of_right_ne_nil _ (List.cons_ne_nil t [])
  | setNullable h =>
    exact (hgiven _ List.mem_cons_self).copyOf (TypeRef.copyOf_of_setNullable h)
  | annotate h => exact (hgiven _ List.mem_cons_self).copyOf (TypeRef.copyOf_of_annotate h)
  | _ => trivial

/-- **Applied classes have arguments**, wherever they stand in a type that can
be obtained. -/
theorem TypeRef.Obtainable.hasArguments {t : TypeRef} (h : t.Obtainable) :
    t.Everywhere (fun u => (Value.type u).HasArguments) :=
  everywhere_of_throughout (KotlinTypes.Obtainable.throughout
    (fun hmakes hgiven => hmakes.hasArguments (fun u hu => (hgiven u hu).here)) h)

end KotlinTypes
