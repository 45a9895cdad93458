import KotlinTypes.TypeRef.Build

/-!
# What a type is marked with

Two things are said of a type from outside: whether `null` is allowed, and
which annotations it carries. Every kind of type has copies of its own for
both, and refusals of its own – a projection and the type `dynamic` have no
place for a question mark, the definite form `T & Any` is not asked any more,
and `dynamic` takes no annotations.

Apart from the refusals all kinds are alike. What a type says is its **core**,
which is the type with its marks taken off, and the marks themselves; a copy
that is not refused puts a mark in its place and leaves the rest alone
(`TypeRef.guarded_setNullable`, `TypeRef.guarded_annotate`). So the copies
obey the laws of independent fields: what was put is what is read, the last
question mark counts, annotations add up, and it does not matter which of the
two comes first (`TypeRef.markings_independent`).

Refusals are the part that is no law of fields. One copy might have made
another one possible, or impossible, but none does. A nullability is answered as
if no other had been put before, down to the reason of a refusal
(`TypeRef.setNullable_marked`), annotations have no say in which nullabilities
are admitted (`TypeRef.admits_noted`), and a question mark has none in which
annotations are taken (`TypeRef.takes_marked`).
-/

namespace KotlinTypes

/-! ## Copies under a rule -/

/-- **An attempt is guarded** when it gives a value where a rule is kept, and is
refused where it is not. -/
structure Guarded {α : Type} (rule : Prop) (outcome : Except Rejection α) (value : α) : Prop where
  /-- Where the rule is kept it succeeds. -/
  ok (h : rule) : outcome = .ok value
  /-- Where the rule is broken it is refused. -/
  refused (h : ¬ rule) : ∃ r, outcome = .error r

namespace Guarded

variable {α β : Type} {P Q : Prop} {x y : Except Rejection α} {a b : α}

/-- A guarded attempt gives its value and no other one. -/
theorem eq_ok_iff (h : Guarded P x a) : x = .ok b ↔ P ∧ b = a := by
  refine ⟨fun hok => ?_, fun ⟨hP, hb⟩ => hb ▸ h.ok hP⟩
  by_cases hP : P
  · exact ⟨hP, Except.ok.inj (hok.symm.trans (h.ok hP))⟩
  · obtain ⟨r, hr⟩ := h.refused hP
    exact nomatch hok.symm.trans hr

/-- It is refused exactly where the rule is broken. -/
theorem eq_error_iff (h : Guarded P x a) : (∃ r, x = .error r) ↔ ¬ P :=
  ⟨fun ⟨_, hr⟩ hP => (nomatch hr.symm.trans (h.ok hP)), h.refused⟩

/-- **Two guarded attempts** one after the other keep two rules. -/
theorem bind {f : α → Except Rejection β} {c : β} (hx : Guarded P x a) (hf : Guarded Q (f a) c) :
    Guarded (P ∧ Q) (x >>= f) c where
  ok h := by
    rw [hx.ok h.1]
    exact hf.ok h.2
  refused h := by
    by_cases hP : P
    · rw [hx.ok hP]
      exact hf.refused (fun hQ => h ⟨hP, hQ⟩)
    · obtain ⟨r, hr⟩ := hx.refused hP
      exact ⟨r, hr ▸ rfl⟩

/-- **Attempts under one rule with one value** agree up to the reason of a
refusal. -/
theorem toOption_eq (hx : Guarded P x a) (hy : Guarded Q y a) (h : P ↔ Q) :
    x.toOption = y.toOption := by
  by_cases hP : P
  · rw [hx.ok hP, hy.ok (h.mp hP)]
  · obtain ⟨r, hr⟩ := hx.refused hP
    obtain ⟨r', hr'⟩ := hy.refused (fun hQ => hP (h.mpr hQ))
    rw [hr, hr']
    rfl

end Guarded

/-! ## Marks -/

namespace Nullness

/-- The form with a question mark or without one. The definite form has no
place for one. -/
def marked (form : Nullness) (nullable : Bool) : Nullness :=
  match form with
  | .definite => .definite
  | .plain | .nullable => if nullable then .nullable else .plain

/-- The last question mark counts. -/
@[simp] theorem marked_marked (form : Nullness) (first nullable : Bool) :
    (form.marked first).marked nullable = form.marked nullable := by
  cases form <;> cases first <;> rfl

/-- The mark that is there may be put again. -/
@[simp] theorem marked_self (form : Nullness) :
    form.marked (decide (form = .nullable)) = form := by
  cases form <;> rfl

/-- A question mark leads neither into the definite form nor out of it. -/
@[simp] theorem marked_eq_definite_iff (form : Nullness) (nullable : Bool) :
    form.marked nullable = .definite ↔ form = .definite := by
  cases form <;> cases nullable <;> simp [marked]

/-- Outside of the definite form the mark that was put is there. -/
theorem marked_of_ne_definite {form : Nullness} (h : form ≠ .definite) (nullable : Bool) :
    form.marked nullable = if nullable then .nullable else .plain := by
  cases form with
  | definite => exact absurd rfl h
  | plain => rfl
  | nullable => rfl

end Nullness

namespace TypeRef

variable {t u : TypeRef} {nullable : Bool} {annotations : List AnnotationUse}

/-- **The type marked nullable or not**, if its kind has a place for the mark;
otherwise the type as it is. -/
def marked (t : TypeRef) (nullable : Bool) : TypeRef :=
  match t with
  | .ofClass c => .ofClass (c.setNullable nullable)
  | .ofApplied a => .ofApplied (a.setNullable nullable)
  | .ofParameter v => .ofParameter { v with nullness := v.nullness.marked nullable }
  | .ofProjected w => .ofProjected w
  | .ofFunction f => .ofFunction (f.setNullable nullable)
  | .dynamic => .dynamic

/-- **The type with more annotations after its own**, if its kind has a place
for them; otherwise the type as it is. -/
def noted (t : TypeRef) (annotations : List AnnotationUse) : TypeRef :=
  match t with
  | .ofClass c => .ofClass (c.annotate annotations)
  | .ofApplied a => .ofApplied (a.annotate annotations)
  | .ofParameter v => .ofParameter (v.annotate annotations)
  | .ofProjected w => .ofProjected (w.annotate annotations)
  | .ofFunction f => .ofFunction (f.annotate annotations)
  | .dynamic => .dynamic

/-- **The core of a type**: the type without a question mark and without
annotations of its own. The types in it keep theirs. -/
def core : TypeRef → TypeRef
  | .ofClass c => .ofClass { c with nullable := false, annotations := [] }
  | .ofApplied a => .ofApplied { a with nullable := false, annotations := [] }
  | .ofParameter v =>
      .ofParameter { v with nullness := v.nullness.marked false, annotations := [] }
  | .ofProjected w => .ofProjected { w with annotations := [] }
  | .ofFunction f => .ofFunction { f with nullable := false, annotations := [] }
  | .dynamic => .dynamic

/-- **The nullabilities a type admits**: those for which its kind has a place,
unless it has settled the matter for good. -/
def Admits (t : TypeRef) (nullable : Bool) : Prop :=
  match t with
  | .ofClass _ | .ofApplied _ | .ofFunction _ => True
  | .ofParameter v => v.isDefinite = false
  | .ofProjected _ | .dynamic => nullable = false

/-- **The annotations a type takes**: all, but `dynamic` takes none. -/
def Takes (t : TypeRef) (annotations : List AnnotationUse) : Prop :=
  t = .dynamic → annotations = []

/-- A type does not admit a nullability exactly if it is a definite parameter,
or a projection or `dynamic` and the nullability is `true`. -/
theorem not_admits_iff :
    ¬ t.Admits nullable ↔ (∃ v, t = .ofParameter v ∧ v.isDefinite = true)
      ∨ nullable = true ∧ ((∃ w, t = .ofProjected w) ∨ t = .dynamic) := by
  cases t with
  | ofParameter v => simp [Admits]
  | _ => simp [Admits]

/-- A type does not take annotations exactly if it is `dynamic` and there are
some. -/
theorem not_takes_iff : ¬ t.Takes annotations ↔ t = .dynamic ∧ annotations ≠ [] :=
  Classical.not_imp

/-! ## Reading and putting marks -/

/-- The core carries no mark. -/
theorem isNullable_core (t : TypeRef) : t.core.isNullable = false := by
  cases t with
  | ofParameter v =>
    show decide (v.nullness.marked false = .nullable) = false
    cases v.nullness <;> rfl
  | _ => rfl

/-- The core carries no annotations. -/
theorem annotations_core (t : TypeRef) : t.core.annotations = [] := by
  cases t <;> rfl

/-- **A type is its core and its marks.** -/
theorem noted_marked_core (t : TypeRef) :
    (t.core.marked t.isNullable).noted t.annotations = t := by
  cases t with
  | ofParameter v => simp [core, marked, noted, isNullable, annotations, TypeParameter.annotate]
  | _ => rfl

/-- A question mark leaves the core alone. -/
theorem core_marked (t : TypeRef) (nullable : Bool) : (t.marked nullable).core = t.core := by
  cases t with
  | ofParameter v => simp [core, marked]
  | _ => rfl

/-- Annotations leave the core alone. -/
theorem core_noted (t : TypeRef) (annotations : List AnnotationUse) :
    (t.noted annotations).core = t.core := by
  cases t <;> rfl

/-- A question mark leaves the annotations alone. -/
theorem annotations_marked (t : TypeRef) (nullable : Bool) :
    (t.marked nullable).annotations = t.annotations := by
  cases t <;> rfl

/-- Annotations come after those of the type, if it takes them. -/
theorem annotations_noted (h : t.Takes annotations) :
    (t.noted annotations).annotations = t.annotations ++ annotations := by
  cases t with
  | dynamic => exact (h rfl).symm
  | _ => rfl

/-- Annotations leave the question mark alone. -/
theorem isNullable_noted (t : TypeRef) (annotations : List AnnotationUse) :
    (t.noted annotations).isNullable = t.isNullable := by
  cases t <;> rfl

/-- **The mark that was put is the mark that is read**, if it is admitted. -/
theorem isNullable_marked (h : t.Admits nullable) : (t.marked nullable).isNullable = nullable := by
  cases t with
  | ofParameter v =>
    show decide (v.nullness.marked nullable = .nullable) = nullable
    rw [v.nullness.marked_of_ne_definite (of_decide_eq_false h)]
    cases nullable <;> rfl
  | ofProjected w => exact Eq.symm h
  | dynamic => exact Eq.symm h
  | _ => rfl

/-- **The mark that is read may be put** without a change. -/
theorem marked_isNullable (t : TypeRef) : t.marked t.isNullable = t := by
  cases t with
  | ofParameter v => simp [marked, isNullable]
  | _ => rfl

/-- Annotations and a question mark may be put in any order. -/
theorem marked_noted (t : TypeRef) (nullable : Bool) (annotations : List AnnotationUse) :
    (t.noted annotations).marked nullable = (t.marked nullable).noted annotations := by
  cases t <;> rfl

/-- Annotations are put after those that are there. -/
theorem noted_noted (t : TypeRef) (first second : List AnnotationUse) :
    (t.noted first).noted second = t.noted (first ++ second) := by
  have hassoc : ∀ own : List AnnotationUse, own ++ first ++ second = own ++ (first ++ second) :=
    fun own => List.append_assoc own first second
  cases t with
  | ofClass c => exact congrArg (fun all => ofClass { c with annotations := all }) (hassoc _)
  | ofApplied a => exact congrArg (fun all => ofApplied { a with annotations := all }) (hassoc _)
  | ofParameter v =>
    exact congrArg (fun all => ofParameter { v with annotations := all }) (hassoc _)
  | ofProjected w =>
    exact congrArg (fun all => ofProjected { w with annotations := all }) (hassoc _)
  | ofFunction f => exact congrArg (fun all => ofFunction { f with annotations := all }) (hassoc _)
  | dynamic => rfl

/-! ## What is admitted -/

/-- Annotations do not change what is admitted. -/
theorem admits_noted (t : TypeRef) (annotations : List AnnotationUse) (nullable : Bool) :
    (t.noted annotations).Admits nullable ↔ t.Admits nullable := by
  cases t <;> exact Iff.rfl

/-- A question mark does not change which annotations are taken. -/
theorem takes_marked (t : TypeRef) (nullable : Bool) (annotations : List AnnotationUse) :
    (t.marked nullable).Takes annotations ↔ t.Takes annotations := by
  cases t with
  | dynamic => exact Iff.rfl
  | _ => exact iff_of_true nofun nofun

/-- Neither do annotations. -/
theorem takes_noted (t : TypeRef) (first annotations : List AnnotationUse) :
    (t.noted first).Takes annotations ↔ t.Takes annotations := by
  cases t with
  | dynamic => exact Iff.rfl
  | _ => exact iff_of_true nofun nofun

/-- A type that admits any nullability admits its own. -/
theorem Admits.isNullable (h : t.Admits nullable) : t.Admits t.isNullable := by
  cases t with
  | ofParameter v => exact h
  | ofProjected w => exact rfl
  | dynamic => exact rfl
  | _ => trivial

/-- **Another nullability is a mark**, and refused where it is not admitted. -/
theorem guarded_setNullable (t : TypeRef) (nullable : Bool) :
    Guarded (t.Admits nullable) (t.setNullable nullable) (t.marked nullable) where
  ok h := by
    cases t with
    | ofParameter v =>
      have hplain : v.isDefinite = false := h
      show (v.setNullable nullable).map ofParameter = .ok (.ofParameter _)
      rw [TypeParameter.setNullable, hplain,
        v.nullness.marked_of_ne_definite (of_decide_eq_false hplain)]
      rfl
    | ofProjected w =>
      obtain rfl : nullable = false := h
      rfl
    | dynamic =>
      obtain rfl : nullable = false := h
      rfl
    | _ => rfl
  refused h := by
    obtain ⟨v, rfl, hdefinite⟩ | ⟨rfl, ⟨w, rfl⟩ | rfl⟩ := not_admits_iff.mp h
    · exact ⟨_, congrArg (Except.map ofParameter) (if_pos hdefinite)⟩
    · exact ⟨_, rfl⟩
    · exact ⟨_, rfl⟩

/-- **More annotations are notes**, and refused where they are not taken. -/
theorem guarded_annotate (t : TypeRef) (annotations : List AnnotationUse) :
    Guarded (t.Takes annotations) (t.annotate annotations) (t.noted annotations) where
  ok h := by
    cases t with
    | dynamic =>
      obtain rfl : annotations = [] := h rfl
      rfl
    | _ => rfl
  refused h := by
    obtain ⟨rfl, hne⟩ := not_takes_iff.mp h
    exact ⟨_, if_neg (fun hempty => hne (List.isEmpty_iff.mp hempty))⟩

/-! ## One copy after another -/

/-- **The last question mark counts**: whether an earlier one was put or not
makes no difference to a copy, nor to the reason why it is refused. -/
theorem setNullable_marked (t : TypeRef) (first nullable : Bool) :
    (t.marked first).setNullable nullable = t.setNullable nullable := by
  cases t with
  | ofParameter v =>
    simp [marked, setNullable, TypeParameter.setNullable, TypeParameter.isDefinite]
  | _ => rfl

/-- **Annotations add up**: those that are added in two steps are added, or
refused, as if they were added at once. -/
theorem annotate_append (t : TypeRef) (first second : List AnnotationUse) :
    (t.annotate first >>= fun u => u.annotate second) = t.annotate (first ++ second) := by
  by_cases hdynamic : t = .dynamic
  · subst hdynamic
    cases first with
    | nil => rfl
    | cons a rest => rfl
  · have htakes : ∀ annotations, t.Takes annotations := fun _ h => absurd h hdynamic
    have hnoted : ∀ annotations, (t.noted first).Takes annotations := fun annotations =>
      (takes_noted t first annotations).mpr (htakes annotations)
    rw [(t.guarded_annotate first).ok (htakes first),
      (t.guarded_annotate (first ++ second)).ok (htakes _), ← noted_noted]
    exact ((t.noted first).guarded_annotate second).ok (hnoted second)

/-- **The two marks are independent**: put in either order they give the same
type, or are refused. -/
theorem toOption_setNullable_annotate (t : TypeRef) (nullable : Bool)
    (annotations : List AnnotationUse) :
    (t.setNullable nullable >>= fun u => u.annotate annotations).toOption
      = (t.annotate annotations >>= fun u => u.setNullable nullable).toOption := by
  have hfirst := (t.guarded_setNullable nullable).bind (f := fun u => u.annotate annotations)
    ((t.marked nullable).guarded_annotate annotations)
  have hlast := (t.guarded_annotate annotations).bind (f := fun u => u.setNullable nullable)
    ((t.noted annotations).guarded_setNullable nullable)
  rw [marked_noted] at hlast
  refine hfirst.toOption_eq hlast ?_
  rw [takes_marked, admits_noted, and_comm]

/-- **A type is marked as by independent fields.** A nullability is refused by
definite parameters, and besides, if it is `true`, by projections and
`dynamic`. A type that takes it has it, keeps its annotations and its core,
answers to further nullabilities as before, and is itself again as soon as it
is asked for its old one. Annotations are refused by `dynamic`, if there are
any. A type that takes them has them after its own and keeps its nullability
and its core, and it does not matter whether they come at once or in two steps.
And where one follows the other, a nullability and annotations give the same
type in both orders, or none in both. -/
theorem markings_independent (t : TypeRef) :
    (∀ nullable, (∃ r, t.setNullable nullable = .error r)
        ↔ (∃ v, t = .ofParameter v ∧ v.isDefinite = true)
          ∨ nullable = true ∧ ((∃ w, t = .ofProjected w) ∨ t = .dynamic))
      ∧ (∀ nullable u, t.setNullable nullable = .ok u →
        u.isNullable = nullable ∧ u.annotations = t.annotations ∧ u.core = t.core
          ∧ (∀ next, u.setNullable next = t.setNullable next)
          ∧ u.setNullable t.isNullable = .ok t)
      ∧ (∀ annotations, (∃ r, t.annotate annotations = .error r)
        ↔ t = .dynamic ∧ annotations ≠ [])
      ∧ (∀ annotations u, t.annotate annotations = .ok u →
        u.annotations = t.annotations ++ annotations ∧ u.isNullable = t.isNullable
          ∧ u.core = t.core)
      ∧ (∀ first second, (t.annotate first >>= fun u => u.annotate second)
        = t.annotate (first ++ second))
      ∧ ∀ nullable annotations,
        (t.setNullable nullable >>= fun u => u.annotate annotations).toOption
          = (t.annotate annotations >>= fun u => u.setNullable nullable).toOption := by
  refine ⟨fun nullable => ?_, fun nullable u hu => ?_, fun annotations => ?_,
    fun annotations u hu => ?_, t.annotate_append, t.toOption_setNullable_annotate⟩
  · rw [(t.guarded_setNullable nullable).eq_error_iff, not_admits_iff]
  · obtain ⟨hadmits, rfl⟩ := (t.guarded_setNullable nullable).eq_ok_iff.mp hu
    refine ⟨isNullable_marked hadmits, t.annotations_marked nullable, t.core_marked nullable,
      t.setNullable_marked nullable, ?_⟩
    rw [setNullable_marked, (t.guarded_setNullable t.isNullable).ok hadmits.isNullable,
      marked_isNullable]
  · rw [(t.guarded_annotate annotations).eq_error_iff, not_takes_iff]
  · obtain ⟨htakes, rfl⟩ := (t.guarded_annotate annotations).eq_ok_iff.mp hu
    exact ⟨annotations_noted htakes, t.isNullable_noted annotations, t.core_noted annotations⟩

/-- The parameter `T : CharSequence` as a type. -/
def boundedByCharSequence : TypeRef :=
  .ofParameter (.ofBounds "T" [.charSequence])

/-- `T?`, and `T` again; and `@Deprecated T`. -/
theorem markings_independent_parameter :
    boundedByCharSequence.setNullable true = .ok (boundedByCharSequence.marked true)
      ∧ (boundedByCharSequence.marked true).isNullable = true
      ∧ (boundedByCharSequence.marked true).setNullable false = .ok boundedByCharSequence
      ∧ boundedByCharSequence.annotate [.of (.kotlin "Deprecated")]
        = .ok (boundedByCharSequence.noted [.of (.kotlin "Deprecated")])
      ∧ (boundedByCharSequence.noted [.of (.kotlin "Deprecated")]).annotations
        = [.of (.kotlin "Deprecated")] := by
  have hnullable : boundedByCharSequence.setNullable true
      = .ok (boundedByCharSequence.marked true) := rfl
  have hannotate : boundedByCharSequence.annotate [.of (.kotlin "Deprecated")]
      = .ok (boundedByCharSequence.noted [.of (.kotlin "Deprecated")]) := rfl
  obtain ⟨-, hmark, -, hnote, -, -⟩ := boundedByCharSequence.markings_independent
  obtain ⟨hisNullable, -, -, -, hback⟩ := hmark true _ hnullable
  exact ⟨hnullable, hisNullable, hback, hannotate, (hnote _ _ hannotate).1⟩

end TypeRef

end KotlinTypes
