import KotlinTypes.Proofs.Renaming

/-!
# Relative names are canonical names without packages

Of all that a style says, types and generics depend on one point only: whether
classes are written by their relative names. And that point needs no printer
that knows of it. A class that is **erased** keeps its path and loses its
package, unless every file imports the package anyhow; written by its canonical
name, the erased class reads as the class does by its relative name
(`QualifiedName.reference_erasePackage`).

Erasing is a renaming, so this passes from classes to types, annotations and
generics. What keeps generics from going astray is that an erased class is
never `Any` unless it was `Any` before: erasing neither adds nor removes a
bound that says nothing, and hoists no other bounds.
-/

namespace KotlinTypes

/-! ## Erasing one class -/

namespace QualifiedName

/-- **The class without its package**, unless every file imports it. -/
def erasePackage (q : QualifiedName) : QualifiedName :=
  if q.isImportedByDefault then q else { q with package := "" }

/-- Whether a class is written by its relative name in any case: it is imported
by default, or it lies in the root package. -/
def NeedsNoPackage (q : QualifiedName) : Prop :=
  q.isImportedByDefault = true ∨ q.package = ""

/-- Erasing changes nothing where there is no package to write. -/
theorem NeedsNoPackage.erasePackage_eq {q : QualifiedName} (h : q.NeedsNoPackage) :
    q.erasePackage = q := by
  obtain ⟨package, outermost, inner⟩ := q
  unfold erasePackage
  split
  · rfl
  · next himported =>
    obtain rfl : package = "" := h.resolve_left himported
    rfl

/-- An erased class is written by its relative name. -/
theorem reference_erasePackage (q : QualifiedName) :
    q.erasePackage.reference .standard = q.relative := by
  unfold erasePackage
  split
  · next himported =>
    unfold reference
    rw [himported, Bool.or_true, if_pos rfl]
  · -- no default import is the root package, so the canonical name is asked for
    rfl

/-- **Erasing neither moves `Any` nor moves another class there.** -/
theorem erasePackage_eq_any_iff (q : QualifiedName) :
    q.erasePackage = .topLevel "kotlin" "Any" ↔ q = .topLevel "kotlin" "Any" := by
  unfold erasePackage
  split
  · exact Iff.rfl
  · next himported =>
    refine iff_of_false (fun h => ?_) (fun h => himported (h ▸ rfl))
    have hpackage : "" = "kotlin" := congrArg package h
    exact absurd hpackage (by decide)

/-- Any style refers to a class as the standard style does, to the erased class
if it wants relative names. -/
theorem reference_eq (q : QualifiedName) (style : Style) :
    q.reference style = if style.relativeNames then q.erasePackage.reference .standard
      else q.reference .standard := by
  rw [reference_erasePackage]
  unfold reference
  cases style.relativeNames with
  | true => rfl
  | false => rfl

end QualifiedName

/-! ## Erasing at every depth -/

/-- **A type with all packages erased** that have to be written. -/
def TypeRef.erasePackages (t : TypeRef) : TypeRef :=
  t.rename .erasePackage

/-- A parameter with all packages erased that have to be written. -/
def TypeParameter.erasePackages (v : TypeParameter TypeRef) : TypeParameter TypeRef :=
  v.rename .erasePackage

/-- A value with all packages erased that have to be written. -/
def Value.erasePackages (v : Value) : Value :=
  v.rename .erasePackage

/-- Erasing leaves a value alone if no class of it has a package to write. -/
theorem Value.erasePackages_eq_self {v : Value} (h : v.AllClasses QualifiedName.NeedsNoPackage) :
    v.erasePackages = v :=
  rename_eq_self (h.imp (fun _ hu q hq => (hu q hq).erasePackage_eq))

/-- Erasing leaves parameters alone if no class of them has a package to
write. -/
theorem TypeParameter.map_erasePackages_eq_self {parameters : List (TypeParameter TypeRef)}
    (h : ∀ v ∈ parameters, (Value.type (.ofParameter v)).AllClasses QualifiedName.NeedsNoPackage) :
    parameters.map erasePackages = parameters :=
  map_rename_eq_self (fun v hv => (h v hv).imp (fun _ hu q hq => (hu q hq).erasePackage_eq))

/-- **Erasing commutes with completing bounds.** -/
theorem TypeParameter.upperBounds_erasePackages (v : TypeParameter TypeRef) :
    v.erasePackages.upperBounds = v.upperBounds.map TypeRef.erasePackages :=
  Bounds.upper_map_rename QualifiedName.erasePackage_eq_any_iff v.bounds

/-! ## Styles -/

section Styles

variable (style : Style)

/-- **The text of a value in any style** is a text in the standard style: that
of the erased value where relative names are wanted, and that of the value
itself otherwise. -/
theorem Value.textIn_eq (v : Value) :
    v.textIn style = if style.relativeNames then v.erasePackages.textIn .standard
      else v.textIn .standard := by
  by_cases h : style.relativeNames = true
  · rw [if_pos h]
    refine (textIn_rename (fun q => ?_) v).symm
    rw [q.reference_eq style, if_pos h]
  · rw [if_neg h]
    refine textIn_congr (fun q => ?_) v
    rw [q.reference_eq style, if_neg h]

/-- **The generics of a declaration in any style**, by the standard style. -/
theorem Generics.render_eq (parameters : List (TypeParameter TypeRef)) :
    render parameters style
      = if style.relativeNames then render (parameters.map TypeParameter.erasePackages) .standard
        else render parameters .standard := by
  by_cases h : style.relativeNames = true
  · rw [if_pos h]
    refine (render_rename (fun q => ?_) parameters).symm
    rw [q.reference_eq style, if_pos h]
  · rw [if_neg h]
    refine render_congr (fun q => ?_) parameters
    rw [q.reference_eq style, if_neg h]

/-- **Relative names are all that a style decides on**, and they are names with
packages erased. The text of a type or an annotation in any style, and the
generics of any parameters, are those in the standard style, of erased values
where relative names are wanted. So two styles that agree on that point write
everything alike, whatever they say on the `where` block, and where no class
has a package to write all styles do. -/
theorem Style.texts_eq_erased :
    (∀ v : Value, v.textIn style = if style.relativeNames then v.erasePackages.textIn .standard
        else v.textIn .standard)
      ∧ (∀ parameters : List (TypeParameter TypeRef), Generics.render parameters style
        = if style.relativeNames
          then Generics.render (parameters.map TypeParameter.erasePackages) .standard
          else Generics.render parameters .standard)
      ∧ (∀ v : TypeParameter TypeRef,
        v.erasePackages.upperBounds = v.upperBounds.map TypeRef.erasePackages)
      ∧ (∀ other : Style, other.relativeNames = style.relativeNames →
        (∀ v : Value, v.textIn other = v.textIn style)
          ∧ ∀ parameters, Generics.render parameters other = Generics.render parameters style)
      ∧ (∀ v : Value, v.AllClasses QualifiedName.NeedsNoPackage →
        ∀ other : Style, v.textIn other = v.textIn style)
      ∧ ∀ parameters : List (TypeParameter TypeRef),
        (∀ v ∈ parameters, (Value.type (.ofParameter v)).AllClasses QualifiedName.NeedsNoPackage) →
          ∀ other : Style, Generics.render parameters other = Generics.render parameters style := by
  refine ⟨Value.textIn_eq style, Generics.render_eq style,
    TypeParameter.upperBounds_erasePackages, fun other h => ⟨fun v => ?_, fun parameters => ?_⟩,
    fun v hv other => ?_, fun parameters hparameters other => ?_⟩
  · rw [Value.textIn_eq other, Value.textIn_eq style, h]
  · rw [Generics.render_eq other, Generics.render_eq style, h]
  · -- both branches are the text of the value itself
    rw [Value.textIn_eq other, Value.textIn_eq style, Value.erasePackages_eq_self hv, ite_self,
      ite_self]
  · rw [Generics.render_eq other, Generics.render_eq style,
      TypeParameter.map_erasePackages_eq_self hparameters, ite_self, ite_self]

end Styles

/-- `Map<String, demo.graph.Node>`, where one class has a package to write. -/
def mapToNode : TypeRef :=
  .ofApplied ⟨.topLevel "kotlin.collections" "Map",
    [.string, .ofClass (.topLevel "demo.graph" "Node")], false, []⟩

/-- `T : Comparable<Node>`, where no class has one. -/
def comparableToNode : TypeParameter TypeRef :=
  .ofBounds "T" [.ofApplied ⟨.topLevel "kotlin" "Comparable", [.ofClass (.topLevel "" "Node")],
    false, []⟩]

/-- No class of `T : Comparable<Node>` has a package to write. -/
theorem allClasses_comparableToNode :
    (Value.type (.ofParameter comparableToNode)).AllClasses QualifiedName.NeedsNoPackage := by
  have hnode : (Value.type (.ofClass (.topLevel "" "Node"))).AllClasses
      QualifiedName.NeedsNoPackage :=
    .intro (fun _ hq => Option.some.inj hq ▸ .inr rfl) (fun _ hu => absurd hu List.not_mem_nil)
  have hcomparable : (Value.type (.ofApplied ⟨.topLevel "kotlin" "Comparable",
      [.ofClass (.topLevel "" "Node")], false, []⟩)).AllClasses QualifiedName.NeedsNoPackage :=
    .intro (fun _ hq => Option.some.inj hq ▸ .inl rfl) (List.forall_mem_singleton.mpr hnode)
  exact .intro (fun _ hq => nomatch hq) (List.forall_mem_singleton.mpr hcomparable)

/-- The relative text of a map is the text of the erased map, and the generics
of a parameter whose classes need no package have no other text. -/
theorem Style.texts_eq_erased_node :
    (Value.type mapToNode).textIn .standard = "Map<String, demo.graph.Node>"
      ∧ (Value.type mapToNode).textIn .relative = "Map<String, Node>"
      ∧ (∀ v ∈ [comparableToNode],
        (Value.type (.ofParameter v)).AllClasses QualifiedName.NeedsNoPackage)
      ∧ ∀ style : Style,
        Generics.render [comparableToNode] style = ⟨"<T : Comparable<Node>>", ""⟩ := by
  have hall : ∀ v ∈ [comparableToNode],
      (Value.type (.ofParameter v)).AllClasses QualifiedName.NeedsNoPackage :=
    List.forall_mem_singleton.mpr allClasses_comparableToNode
  refine ⟨by decide, ((texts_eq_erased .relative).1 (.type mapToNode)).trans (by decide), hall,
    fun style => ?_⟩
  exact ((texts_eq_erased .standard).2.2.2.2.2 [comparableToNode] hall style).trans (by decide)

end KotlinTypes
