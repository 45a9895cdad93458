import KotlinTypes.QualifiedName

/-!
# Class references and annotations

A reference to a class may be nullable and may carry annotations, and an
annotation is itself a use of a class. So annotations nest: `AnnotationUse` is
the recursive one of the two types here, and `ClassRef` has the same parts.
What an annotation's class carries beyond its name is never written out, but
it does take part in equality.
-/

namespace KotlinTypes

/-- **A use of an annotation class** on a type, such as the `@Composable` in
`@Composable () -> Unit`. -/
structure AnnotationUse where
  /-- The annotation class. -/
  name : QualifiedName
  /-- Whether the annotation class was given as a nullable reference. -/
  nullable : Bool
  /-- The annotations the reference to the annotation class carries. -/
  annotations : List AnnotationUse

/-- **A reference to a class.** -/
structure ClassRef where
  /-- The class. -/
  name : QualifiedName
  /-- Whether `null` is allowed beside its instances. -/
  nullable : Bool
  /-- The annotations of this reference, first one first. -/
  annotations : List AnnotationUse

/-! ## Equality

Two annotation uses are equal when their classes and all they carry are, at
every depth. -/

namespace AnnotationUse

mutual
/-- Whether two annotation uses agree in every part. -/
def same : AnnotationUse → AnnotationUse → Bool
  | ⟨name₁, nullable₁, annotations₁⟩, ⟨name₂, nullable₂, annotations₂⟩ =>
      decide (name₁ = name₂) && decide (nullable₁ = nullable₂)
        && sameAll annotations₁ annotations₂
  termination_by structural a => a
/-- Whether two lists of annotation uses agree place by place. -/
def sameAll : List AnnotationUse → List AnnotationUse → Bool
  | [], [] => true
  | a :: as, b :: bs => a.same b && sameAll as bs
  | _, _ => false
  termination_by structural as => as
end

mutual
/-- Agreement in every part is equality. -/
theorem same_iff (a b : AnnotationUse) : a.same b = true ↔ a = b := by
  match a, b with
  | ⟨_, _, as⟩, ⟨_, _, bs⟩ => simp [same, sameAll_iff as bs, and_assoc]
/-- Agreement place by place is equality of lists. -/
theorem sameAll_iff (as bs : List AnnotationUse) : sameAll as bs = true ↔ as = bs := by
  match as, bs with
  | [], [] | [], _ :: _ | _ :: _, [] => simp [sameAll]
  | a :: as, b :: bs => simp [sameAll, same_iff a b, sameAll_iff as bs]
end

instance : DecidableEq AnnotationUse :=
  fun a b => decidable_of_iff _ (same_iff a b)

end AnnotationUse

deriving instance DecidableEq for ClassRef

/-! ## Building -/

namespace ClassRef

/-- The plain reference to a class: non-null, without annotations. -/
def plain (name : QualifiedName) : ClassRef :=
  ⟨name, false, []⟩

/-- The plain reference to a top-level class. -/
def topLevel (package name : String) : ClassRef :=
  plain (.topLevel package name)

/-- The plain reference to a class of the package `kotlin`. -/
def kotlin (name : String) : ClassRef :=
  topLevel "kotlin" name

/-- The plain reference to a class of the package `kotlin.collections`. -/
def collections (name : String) : ClassRef :=
  topLevel "kotlin.collections" name

/-- The plain reference to the class a text most likely names. -/
def ofCanonical (text : String) : Except Rejection ClassRef :=
  (QualifiedName.ofCanonical text).map plain

/-- **A nested class**, referred to plainly: what the outer reference carries
does not pass on to it. -/
def nest (c : ClassRef) (name : String) : ClassRef :=
  plain (c.name.nest name)

/-- The same reference with the given nullability. -/
def setNullable (c : ClassRef) (nullable : Bool) : ClassRef :=
  { c with nullable }

/-- The same reference with more annotations after its own. -/
def annotate (c : ClassRef) (annotations : List AnnotationUse) : ClassRef :=
  { c with annotations := c.annotations ++ annotations }

/-- The same reference without annotations. -/
def unannotated (c : ClassRef) : ClassRef :=
  { c with annotations := [] }

end ClassRef

namespace AnnotationUse

/-- **The use of a class as an annotation.** Nullability and annotations of
the reference mean nothing there and are dropped. -/
def of (c : ClassRef) : AnnotationUse :=
  ⟨c.name, false, []⟩

/-- The use of a class as an annotation, with the reference kept as given. -/
def verbatim (c : ClassRef) : AnnotationUse :=
  ⟨c.name, c.nullable, c.annotations⟩

/-- The reference to the annotation class. -/
def classRef (a : AnnotationUse) : ClassRef :=
  ⟨a.name, a.nullable, a.annotations⟩

@[simp] theorem classRef_verbatim (c : ClassRef) : (verbatim c).classRef = c := rfl

@[simp] theorem verbatim_classRef (a : AnnotationUse) : verbatim a.classRef = a := by
  cases a
  rfl

end AnnotationUse

end KotlinTypes
