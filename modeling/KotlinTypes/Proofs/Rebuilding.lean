import KotlinTypes.Proofs.WellFormed

/-!
# Rebuilding a value from its answers

A class, an applied class and a type parameter do not show how they are stored.
They answer questions: for a name, for arguments or bounds, for nullability and
annotations. The answers are enough. Given to a constructor and a few copies,
which know nothing of the value they came from, they make it again
(`rebuild_answers`), and no step on the way is refused.

For parameters this says that the answers hide nothing that counts. Upper
bounds are answered with an `Any?` that is not stored, and the constructor has
to leave it out again; and a parameter in the definite form has to be led
there from its plain form, which asks for bounds that say more than a top type.
-/

namespace KotlinTypes

/-! ## Classes -/

namespace ClassRef

/-- **A class from its answers**: the top-level class that starts the path, the
classes nested in it one after the other, then nullability and annotations. An
empty path leads nowhere. -/
def rebuild (package : String) (path : List String) (nullable : Bool)
    (annotations : List AnnotationUse) : Option ClassRef :=
  match path with
  | [] => none
  | outermost :: inner =>
      some (((inner.foldl nest (topLevel package outermost)).setNullable nullable).annotate
        annotations)

/-- Nesting class after class goes down the path. -/
theorem foldl_nest (q : QualifiedName) (names : List String) :
    names.foldl nest (plain q) = plain { q with inner := q.inner ++ names } := by
  induction names generalizing q with
  | nil =>
    show plain q = plain { q with inner := q.inner ++ [] }
    rw [List.append_nil]
  | cons name rest ih =>
    show rest.foldl nest (plain (q.nest name)) = _
    rw [ih]
    show plain { q with inner := q.inner ++ [name] ++ rest } = _
    rw [List.append_assoc]
    rfl

/-- The answers of a class make it again. -/
theorem rebuild_eq (c : ClassRef) :
    rebuild c.name.package c.name.path c.nullable c.annotations = some c := by
  have hname : c.name.inner.foldl nest (topLevel c.name.package c.name.outermost)
      = plain c.name :=
    foldl_nest (.topLevel c.name.package c.name.outermost) c.name.inner
  show some (((c.name.inner.foldl nest _).setNullable c.nullable).annotate c.annotations) = some c
  rw [hname]
  rfl

end ClassRef

/-! ## Applied classes -/

namespace Applied

/-- **An applied class from its answers**: the class applied to the arguments,
then nullability and annotations. -/
def rebuild (base : ClassRef) (arguments : List TypeRef) (nullable : Bool)
    (annotations : List AnnotationUse) : Except Rejection TypeRef := do
  let t ← TypeRef.applied base arguments
  let t ← t.setNullable nullable
  t.annotate annotations

/-- The answers of an applied class that has arguments make it again. -/
theorem rebuild_eq {a : Applied TypeRef} (h : a.arguments ≠ []) :
    rebuild a.baseClass a.arguments a.nullable a.annotations = .ok (.ofApplied a) := by
  have happlied : TypeRef.applied a.baseClass a.arguments
      = .ok (.ofApplied ⟨a.base, a.arguments, false, []⟩) := by
    unfold TypeRef.applied of
    rw [if_neg (fun hnil => h (List.isEmpty_iff.mp hnil))]
    rfl
  unfold rebuild
  rw [happlied]
  rfl

end Applied

/-! ## Type parameters -/

/-- The keyword of a variance is the keyword of the modifier that declares
it. -/
theorem Variance.ofKeyword?_keyword? (variance : Variance) :
    variance.keyword?.map Modifier.ofKeyword? = variance.modifier?.map some := by
  cases variance <;> rfl

namespace TypeParameter

/-- **A type parameter from its answers**: declared with a modifier and the
written ones of its upper bounds, reified or not, with its annotations, and
then in the definite form, or nullable or not. -/
def rebuild (modifier : Option Modifier) (answers : Inspection) :
    Except Rejection (TypeParameter TypeRef) := do
  let v ← declared answers.name modifier (Bounds.written answers.upperBounds)
  let v := (v.setReified answers.isReified).annotate answers.annotations
  if answers.isDefinite then v.definite else v.setNullable answers.isNullable

/-- The modifier of a variance declares it. -/
theorem declared_modifier? (name : String) (variance : Variance) (bounds : List TypeRef) :
    declared name variance.modifier? bounds = .ok { ofBounds name bounds with variance } := by
  cases variance <;> rfl

/-- A plain parameter with more than a top type for bounds has a definite
form. -/
theorem definite_of_plain {v : TypeParameter TypeRef} (hplain : v.nullness = .plain)
    (hany : v.upperBounds ≠ [.any]) (hnullableAny : v.upperBounds ≠ [.nullableAny]) :
    v.definite = .ok { v with nullness := .definite } := by
  unfold definite
  rw [hplain]
  match hbounds : v.upperBounds with
  | [] => rfl
  | [only] =>
    have htop : only.isTop = false := by
      rw [Bool.eq_false_iff, ne_eq, TypeRef.isTop_iff]
      exact not_or_intro (fun h => hany (h ▸ hbounds)) (fun h => hnullableAny (h ▸ hbounds))
    show (if only.isTop then _ else _) = _
    rw [htop]
    rfl
  | _ :: _ :: _ => rfl

/-- The answers of a well-formed parameter make it again. -/
theorem WellFormed.rebuild_eq {v : TypeParameter TypeRef} (h : v.WellFormed) :
    rebuild v.variance.modifier? v.inspect = .ok v := by
  have hdeclared : declared v.name v.variance.modifier? (Bounds.written v.upperBounds)
      = .ok ⟨v.name, v.bounds, v.variance, .plain, false, []⟩ := by
    rw [declared_modifier?, h.written_upperBounds, ofBounds,
      Bounds.constraining_eq_self h.nullableAny_notMem]
  unfold rebuild
  show (declared v.name v.variance.modifier? (Bounds.written v.upperBounds) >>= _) = _
  rw [hdeclared]
  obtain ⟨name, bounds, variance, nullness, reified, annotations⟩ := v
  match nullness with
  | .plain => rfl
  | .nullable => rfl
  | .definite =>
    obtain ⟨hany, hnullableAny⟩ := h.upperBounds_of_isDefinite rfl
    exact definite_of_plain (v := ⟨name, bounds, variance, .plain, reified, annotations⟩) rfl hany
      hnullableAny

end TypeParameter

/-- **Answers make a value again.** A class is made again from its package, its
path, its nullability and its annotations; an applied class and a type
parameter that can be obtained are made again from what they answer, where the
modifier that declares the parameter is read from the keyword of its variance.
No step of it is refused. -/
theorem rebuild_answers {literals : Bool} :
    (∀ c : ClassRef,
        ClassRef.rebuild c.name.package c.name.path c.nullable c.annotations = some c)
      ∧ (∀ a : Applied TypeRef, Obtainable literals (.type (.ofApplied a)) →
        Applied.rebuild a.baseClass a.arguments a.nullable a.annotations = .ok (.ofApplied a))
      ∧ ∀ v : TypeParameter TypeRef, Obtainable literals (.type (.ofParameter v)) →
        ∃ modifier, v.inspect.variance.keyword?.map Modifier.ofKeyword? = modifier.map some
          ∧ TypeParameter.rebuild modifier v.inspect = .ok v := by
  refine ⟨ClassRef.rebuild_eq, fun a ha => ?_, fun v hv => ?_⟩
  · exact Applied.rebuild_eq ha.wellFormed.1
  · have hwellFormed : v.WellFormed := hv.wellFormed
    exact ⟨v.variance.modifier?, v.variance.ofKeyword?_keyword?, hwellFormed.rebuild_eq⟩

/-- `List<T & Any>` and its argument, each from its answers. -/
theorem rebuild_answers_listOfDefinite :
    Obtainable false (.type (.ofApplied listOfDefinite))
      ∧ Obtainable false (.type (.ofParameter definiteSequence))
      ∧ Applied.rebuild (.collections "List") [.ofParameter definiteSequence] false []
          = .ok (.ofApplied listOfDefinite)
      ∧ ∃ modifier, Variance.invariant.keyword?.map Modifier.ofKeyword? = modifier.map some
          ∧ TypeParameter.rebuild modifier definiteSequence.inspect = .ok definiteSequence := by
  have hlist := obtainable_listOfDefinite false
  have hargument := obtainable_definiteSequence false
  exact ⟨hlist, hargument, rebuild_answers.2.1 _ hlist, rebuild_answers.2.2 _ hargument⟩

end KotlinTypes
