import KotlinTypes.Proofs.WellFormed
import KotlinTypes.Proofs.Written

/-!
# The definite form is for good

There is a way into the definite form `T & Any` and none out of it. Whatever
is asked of a definite parameter afterwards, in whatever order and however
often, only its annotations and `reified` come out changed. A change that
concerns `null` or bounds is refused even where it would change nothing: the
same bounds, no bounds at all, `null` excluded once more.

One attempt carries the whole of it. Refused or not, it leaves a parameter in
the definite form and of the same name, variance and bounds
(`TypeParameter.DefiniteAs.of_attempt`), and what such a parameter refuses and how
it is written depends on nothing else. Asking the type that the parameter is,
and not the parameter itself, is no way round: the type hands the question on.
-/

namespace KotlinTypes

/-- **Whether a change concerns what the definite form settles**: what is said
about `null`, and the bounds. -/
def Change.concernsForm : Change → Bool
  | .setNullable _ | .setBounds _ | .addBounds _ | .definite => true
  | .setReified _ | .annotate _ => false

namespace TypeParameter

variable {v w d : TypeParameter TypeRef}

/-! ## One change -/

/-- **What concerns the definite form is refused in it**, by one of its rules. -/
theorem exists_refusal (h : v.isDefinite = true) {c : Change} (hc : c.concernsForm = true) :
    ∃ r, v.applyTo c = .error r ∧ r.guardsDefinite = true := by
  have hbounds : ∀ bounds, v.setBounds bounds = .error (.boundsOfDefinite v.name) :=
    fun bounds => if_pos h
  match c with
  | .setNullable true => exact ⟨.nullableDefinite v.name, if_pos h, rfl⟩
  | .setNullable false => exact ⟨.nonNullDefinite v.name, if_pos h, rfl⟩
  | .setBounds bounds => exact ⟨.boundsOfDefinite v.name, hbounds bounds, rfl⟩
  | .addBounds bounds => exact ⟨.boundsOfDefinite v.name, hbounds _, rfl⟩
  | .definite =>
    refine ⟨.alreadyDefinite v.name, ?_, rfl⟩
    show v.definite = _
    unfold definite
    rw [of_decide_eq_true h]
  | .setReified _ | .annotate _ => exact nomatch hc

/-- **A definite form of a parameter**: one that is definite and agrees with it
in name, variance and bounds. -/
structure DefiniteAs (w d : TypeParameter TypeRef) : Prop where
  /-- It is in the definite form. -/
  isDefinite : w.isDefinite = true
  /-- It has the same name. -/
  name_eq : w.name = d.name
  /-- It has the same variance. -/
  variance_eq : w.variance = d.variance
  /-- It has the same bounds. -/
  bounds_eq : w.bounds = d.bounds

/-- What does not concern the definite form succeeds, and leaves it. -/
theorem DefiniteAs.exists_applyTo (h : w.DefiniteAs d) {c : Change} (hc : c.concernsForm = false) :
    ∃ u, w.applyTo c = .ok u ∧ u.DefiniteAs d := by
  match c with
  | .setReified reified =>
    exact ⟨w.setReified reified, rfl, h.isDefinite, h.name_eq, h.variance_eq, h.bounds_eq⟩
  | .annotate annotations =>
    exact ⟨w.annotate annotations, rfl, h.isDefinite, h.name_eq, h.variance_eq, h.bounds_eq⟩
  | .setNullable _ | .setBounds _ | .addBounds _ | .definite => exact nomatch hc

/-! ## Every run -/

/-- **No attempt leads out of the definite form**, refused or not. -/
theorem DefiniteAs.of_attempt (h : w.DefiniteAs d) (c : Change) :
    (attempt applyTo w c).DefiniteAs d := by
  unfold attempt
  cases hc : c.concernsForm with
  | true =>
    obtain ⟨r, hr, -⟩ := exists_refusal h.isDefinite hc
    rw [hr]
    exact h
  | false =>
    obtain ⟨u, hu, hform⟩ := h.exists_applyTo hc
    rw [hu]
    exact hform

/-- **No run of attempts leads out of the definite form.** -/
theorem DefiniteAs.of_run (h : w.DefiniteAs d) (changes : List Change) :
    (changes.foldl (attempt applyTo) w).DefiniteAs d := by
  induction changes generalizing w with
  | nil => exact h
  | cons c rest ih => exact ih (h.of_attempt c)

/-- The definite form is a definite form of itself. -/
theorem DefiniteAs.of_definite (h : v.definite = .ok d) : d.DefiniteAs d := by
  obtain ⟨-, rfl⟩ := definite_eq_ok h
  exact ⟨rfl, rfl, rfl, rfl⟩

/-! ## What is written -/

/-- A definite parameter is written as an intersection, after its
annotations. -/
theorem textIn_of_isDefinite (h : v.isDefinite = true) (style : Style) :
    (TypeRef.ofParameter v).textIn style
      = AnnotationUse.textsIn v.annotations style ++ (v.name ++ " & Any") := by
  have hsuffix : v.nullness.suffix = " & Any" := by
    rw [of_decide_eq_true h]
    rfl
  rw [TypeRef.textIn_eq_textOver, ← hsuffix]
  rfl

/-- The bounds of a definite parameter are not hoisted. -/
theorem constraints_of_isDefinite (h : v.isDefinite = true) : v.constraints = [] := by
  unfold constraints needsWhere
  rw [h]
  rfl

/-- A definite parameter adds nothing to the constraints of a declaration,
wherever it stands among its parameters. -/
theorem constraints_render_of_isDefinite (h : v.isDefinite = true)
    (earlier later : List (TypeParameter TypeRef)) (style : Style) :
    (Generics.render (earlier ++ v :: later) style).constraints
      = (Generics.render (earlier ++ later) style).constraints := by
  rw [Generics.constraints_render, Generics.constraints_render, List.flatMap_append,
    List.flatMap_cons, constraints_of_isDefinite h, List.nil_append, List.flatMap_append]

/-- **The definite form is for good.** After any run of changes, refused or not,
that a definite parameter is put through, every change that concerns `null` or
bounds is refused by a rule of the definite form, and the type that the
parameter is refuses a nullability for the same reason; all other changes
succeed. The parameter is definite and not nullable, with its name, variance
and bounds. It is written as an intersection and adds nothing to the
constraints of a declaration. -/
theorem definite_for_good (h : v.definite = .ok d) {changes : List Change}
    (hw : changes.foldl (attempt applyTo) d = w) :
    (∀ c : Change, c.concernsForm = true → ∃ r, w.applyTo c = .error r ∧ r.guardsDefinite = true)
      ∧ (∀ nullable, ∃ r, w.setNullable nullable = .error r
        ∧ (TypeRef.ofParameter w).setNullable nullable = .error r ∧ r.guardsDefinite = true)
      ∧ (∀ c : Change, c.concernsForm = false → ∃ u, w.applyTo c = .ok u)
      ∧ (w.isDefinite = true ∧ w.isNullable = false ∧ (TypeRef.ofParameter w).isNullable = false)
      ∧ (w.name = d.name ∧ w.variance = d.variance ∧ w.upperBounds = d.upperBounds
        ∧ w.bounds = d.bounds)
      ∧ (∀ style, (TypeRef.ofParameter w).textIn style
        = AnnotationUse.textsIn w.annotations style ++ (d.name ++ " & Any"))
      ∧ ∀ (earlier later : List (TypeParameter TypeRef)) (style : Style),
        (Generics.render (earlier ++ w :: later) style).constraints
          = (Generics.render (earlier ++ later) style).constraints := by
  obtain hform : w.DefiniteAs d := hw ▸ (DefiniteAs.of_definite h).of_run changes
  have hdefinite := hform.isDefinite
  have hnullable : w.isNullable = false := by
    unfold isNullable
    rw [of_decide_eq_true hdefinite]
    rfl
  refine ⟨fun c hc => exists_refusal hdefinite hc, fun nullable => ?_, fun c hc => ?_,
    ⟨hdefinite, hnullable, hnullable⟩, ⟨hform.name_eq, hform.variance_eq, ?_, hform.bounds_eq⟩,
    fun style => ?_, constraints_render_of_isDefinite hdefinite⟩
  · obtain ⟨r, hr, hguards⟩ := exists_refusal hdefinite (c := .setNullable nullable) rfl
    refine ⟨r, hr, ?_, hguards⟩
    show (w.setNullable nullable).map TypeRef.ofParameter = _
    rw [show w.setNullable nullable = .error r from hr]
    rfl
  · obtain ⟨u, hu, -⟩ := hform.exists_applyTo hc
    exact ⟨u, hu⟩
  · exact congrArg Bounds.upper hform.bounds_eq
  · rw [textIn_of_isDefinite hdefinite, hform.name_eq]

/-- `T : CharSequence` made definite, asked for the same bounds and for `null`,
and reified. -/
theorem definite_for_good_charSequence :
    (ofBounds "T" [.charSequence]).definite = .ok definiteSequence
      ∧ [.setBounds [.charSequence], .setNullable true, .setReified true].foldl (attempt applyTo)
          definiteSequence = definiteSequence.setReified true
      ∧ (TypeRef.ofParameter (definiteSequence.setReified true)).textIn .standard = "T & Any" := by
  have hdefinite : (ofBounds "T" [.charSequence]).definite = .ok definiteSequence := rfl
  have hrun : [.setBounds [.charSequence], .setNullable true, .setReified true].foldl
      (attempt applyTo) definiteSequence = definiteSequence.setReified true := rfl
  obtain ⟨-, -, -, -, -, htext, -⟩ := definite_for_good hdefinite hrun
  exact ⟨hdefinite, hrun, htext .standard⟩

end TypeParameter

end KotlinTypes
