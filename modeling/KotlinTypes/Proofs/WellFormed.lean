import KotlinTypes.Proofs.BoundForms
import KotlinTypes.Proofs.Histories

/-!
# Well-formed values

Data can say what no type says: a class applied to nothing, `Any?` written out
as a bound, the definite form of a parameter that has nothing to be intersected
with. Values that can be obtained are free of all that, and so is everything
that stands in them (`Obtainable.wellFormed_of_within`).

Part of it is the shape of the data: a path is never empty, the class that is
applied has no place for a question mark, and a parameter is in one form at a
time. The rest is the work of constructors and copies. Applied classes keep the
arguments they were given, and parameters keep to their ledgers, where bounds
that do not count are not looked at and the definite form is only entered from
bounds that say more than a top type (`Ledger.Tracks.intersects`).

Two rules concern kinds with public parts, and hold only where no literals are
used: `out Any?` is the projection `*`, and the class of an annotation is
referred to plainly. A literal may say otherwise.
-/

namespace KotlinTypes

/-! ## What stands in a value -/

/-- **The contents of a value**, as it shows them when it is asked: the class
that is applied and its arguments, the upper bounds of a parameter, what a
projection lets through, the types in a function type, the class of an
annotation – and all annotations. -/
def Value.contents : Value → List Value
  | .type (.ofApplied a) => .type (.ofClass a.baseClass) :: (Value.type (.ofApplied a)).parts
  | .type (.ofParameter v) => v.upperBounds.map .type ++ v.annotations.map .annotationUse
  | .annotationUse a => [.type (.ofClass a.classRef)]
  | v => v.parts

/-- **What stands in a value**, at any depth: the value itself, its contents,
their contents and so on. -/
inductive Value.Within (v : Value) : Value → Prop where
  /-- The value itself. -/
  | here : Within v v
  /-- The contents of what stands in it. -/
  | inside {u w : Value} (h : Within v u) (hw : w ∈ u.contents) : Within v w

/-- An upper bound is a written one or `Any?`. -/
theorem TypeParameter.mem_upperBounds {v : TypeParameter TypeRef} {t : TypeRef}
    (h : t ∈ v.upperBounds) : t ∈ v.bounds ∨ t = .nullableAny := by
  by_cases hnil : Bounds.constraining v.bounds = []
  · rw [upperBounds, Bounds.upper_of_nil hnil] at h
    exact .inr (List.mem_singleton.mp h)
  · rw [upperBounds, Bounds.upper_of_ne_nil hnil] at h
    exact .inl (List.mem_filter.mp h).1

/-- The top type can be obtained. -/
theorem obtainable_nullableAny (literals : Bool) :
    Obtainable literals (.type .nullableAny) := by
  have hany : Obtainable literals (.type .any) := obtainable_topLevel literals "kotlin" "Any"
  have hnullable : TypeRef.any.setNullable true = .ok .nullableAny := rfl
  exact .made (.setNullable hnullable) (List.forall_mem_singleton.mpr hany)

/-- The contents of an obtainable value can be obtained. -/
theorem Obtainable.contents {literals : Bool} {v u : Value} (h : Obtainable literals v)
    (hu : u ∈ v.contents) : Obtainable literals u := by
  match v with
  | .type (.ofApplied a) =>
    obtain rfl | hpart := List.mem_cons.mp hu
    · exact .made (.baseClass a) (List.forall_mem_singleton.mpr h)
    · exact .found h hpart
  | .type (.ofParameter v) =>
    obtain hbound | hannotation := List.mem_append.mp hu
    · obtain ⟨t, ht, rfl⟩ := List.mem_map.mp hbound
      obtain hwritten | rfl := TypeParameter.mem_upperBounds ht
      · exact .found h (Value.mem_parts_type.mpr (.inl ⟨t, hwritten, rfl⟩))
      · exact obtainable_nullableAny literals
    · exact .found h (List.mem_append_right _ hannotation)
  | .annotationUse a =>
    obtain rfl := List.mem_singleton.mp hu
    exact .made (.classRef a) (List.forall_mem_singleton.mpr h)
  | .type (.ofClass _) | .type (.ofProjected _) | .type (.ofFunction _) | .type .dynamic =>
    exact .found h hu

/-- **What stands in an obtainable value can be obtained**, at any depth. -/
theorem Obtainable.within {literals : Bool} {v u : Value} (h : Obtainable literals v)
    (hu : v.Within u) : Obtainable literals u := by
  induction hu with
  | here => exact h
  | inside _ hw ih => exact ih.contents hw

/-! ## Parameters -/

namespace Ledger

variable {d d' : Ledger} {v : TypeParameter TypeRef}

/-- **A ledger intersects** when the definite form, if it is in it, has bounds
to intersect with that say more than a top type. -/
def Intersects (d : Ledger) : Prop :=
  d.definite = true → d.effective ≠ [] ∧ d.effective ≠ [.any]

/-- **Changes see to the bounds of the definite form**: it is entered from
bounds that will do, and they are not touched any more. -/
theorem Intersects.applyTo (hd : d.Intersects) {c : Change} (h : d.applyTo c = .ok d') :
    d'.Intersects := by
  -- a change of bounds is refused in the definite form, so it leaves nothing to show
  have hplain : ∀ {r : Rejection} {e : Ledger},
      (if d.definite then .error r else .ok e) = Except.ok d' → e.definite = d.definite →
        d'.Intersects := by
    intro r e he hsame hdefinite
    split at he
    · exact nomatch he
    · next hnot =>
      obtain rfl := Except.ok.inj he
      exact absurd (hsame ▸ hdefinite) hnot
  match c with
  | .setReified reified =>
    obtain rfl := Except.ok.inj h
    exact hd
  | .annotate annotations =>
    obtain rfl := Except.ok.inj h
    exact hd
  | .definite =>
    obtain ⟨-, -, hnil, hany, rfl⟩ := makeDefinite_eq_ok h
    exact fun _ => ⟨hnil, hany⟩
  | .setNullable nullable => exact hplain h rfl
  | .setBounds bounds => exact hplain h rfl
  | .addBounds bounds => exact hplain h rfl

/-- **Every ledger that tracks a parameter intersects.** -/
theorem Tracks.intersects (h : Tracks d v) : d.Intersects := by
  refine h.invariant (fun hd hdefinite => ?_) (fun hd hc => hd.applyTo hc)
  rw [definite_of_make hd] at hdefinite
  exact absurd hdefinite Bool.false_ne_true

end Ledger

/-- **A well-formed parameter.** -/
structure TypeParameter.WellFormed (v : TypeParameter TypeRef) : Prop where
  /-- `Any?` is no written bound. -/
  nullableAny_notMem : .nullableAny ∉ v.bounds
  /-- The upper bounds are `Any?` alone, or there are some and none of them is
  `Any?`. -/
  upperBounds_cases : v.upperBounds = [.nullableAny]
    ∨ v.upperBounds ≠ [] ∧ .nullableAny ∉ v.upperBounds
  /-- The definite form is not nullable. -/
  isNullable_of_isDefinite : v.isDefinite = true → v.isNullable = false
  /-- The definite form has more than a top type to intersect with. -/
  upperBounds_of_isDefinite : v.isDefinite = true →
    v.upperBounds ≠ [.any] ∧ v.upperBounds ≠ [.nullableAny]

/-- **A well-formed parameter keeps its written bounds.** To leave out of its
upper bounds what goes without saying gives what is stored, and so a parameter
that is asked for its written bounds may answer with those. -/
theorem TypeParameter.WellFormed.written_upperBounds {v : TypeParameter TypeRef}
    (h : v.WellFormed) : Bounds.written v.upperBounds = v.bounds := by
  rw [upperBounds, Bounds.written_upper, Bounds.constraining_eq_self h.nullableAny_notMem]

/-- **A parameter with a ledger is well-formed.** -/
theorem Ledger.Tracks.wellFormed {d : Ledger} {v : TypeParameter TypeRef} (h : Tracks d v) :
    v.WellFormed := by
  obtain rfl := h.eq_settled
  have hnotMem : TypeRef.nullableAny ∉ d.effective := d.nullableAny_notMem_effective
  refine ⟨hnotMem, ?_, fun hdefinite => ?_, fun hdefinite => ?_⟩
  · rw [upperBounds_settled]
    by_cases hnil : d.effective = []
    · rw [if_pos hnil]
      exact .inl rfl
    · rw [if_neg hnil]
      exact .inr ⟨hnil, hnotMem⟩
  · rw [isDefinite_settled] at hdefinite
    rw [isNullable_settled h.coherent]
    exact h.coherent hdefinite
  · rw [isDefinite_settled] at hdefinite
    obtain ⟨hnil, hany⟩ := h.intersects hdefinite
    rw [upperBounds_settled, if_neg hnil]
    refine ⟨hany, fun htop => hnotMem ?_⟩
    rw [htop]
    exact List.mem_singleton_self _

/-! ## All values -/

/-- **A well-formed value**, as far as the value itself goes. Classes have
names, applied classes have arguments and are plain references, and parameters
are well-formed. -/
def Value.WellFormed : Value → Prop
  | .type (.ofClass c) => c.name.path ≠ []
  | .type (.ofApplied a) =>
      a.arguments ≠ [] ∧ a.baseClass.nullable = false ∧ a.baseClass.annotations = []
  | .type (.ofParameter v) => v.WellFormed
  | .type (.ofProjected _) | .type (.ofFunction _) | .type .dynamic | .annotationUse _ => True

/-- **A value without redundant parts**, as far as the value itself goes: no
projection is `out Any?`, and annotation classes are plain references. -/
def Value.Plain : Value → Prop
  | .type (.ofProjected w) => w.projection ≠ .producer .nullableAny
  | .annotationUse a => a.classRef.nullable = false ∧ a.classRef.annotations = []
  | _ => True

/-- **Obtainable values are well-formed.** -/
theorem Obtainable.wellFormed {literals : Bool} {v : Value} (h : Obtainable literals v) :
    v.WellFormed := by
  match v with
  | .type (.ofClass c) => exact c.name.path_ne_nil
  | .type (.ofApplied a) =>
    have harguments : (Value.type (.ofApplied a)).HasArguments :=
      (h.throughout (fun hmakes hgiven =>
        hmakes.hasArguments (fun u hu => (hgiven u hu).here))).here
    exact ⟨harguments, rfl, rfl⟩
  | .type (.ofParameter v) =>
    obtain ⟨d, hd⟩ := h.exists_tracks
    exact hd.wellFormed
  | .type (.ofProjected _) | .type (.ofFunction _) | .type .dynamic | .annotationUse _ => trivial

/-- A copy of a projection lets the same through. -/
theorem Value.Plain.copyOf {t u : TypeRef} (h : (Value.type t).Plain) (hcopy : t.CopyOf u) :
    (Value.type u).Plain := by
  cases hcopy with
  | ofProjected w annotations => exact h
  | _ => trivial

/-- No step but a literal makes a value with redundant parts. -/
theorem Makes.plain {given : List Value} {v : Value} (h : Makes false given v)
    (hgiven : ∀ u ∈ given, u.Plain) : v.Plain := by
  cases h with
  | applied h =>
    obtain ⟨-, rfl⟩ := TypeRef.applied_eq_ok h
    trivial
  | star => exact nofun
  | producing t =>
    show (Projected.producing t).projection ≠ .producer .nullableAny
    unfold Projected.producing
    split
    · exact nofun
    · next htop =>
      exact fun h => htop (by rw [Projection.producer.inj h, TypeRef.isNullableAny_iff])
  | consuming t => exact nofun
  | setNullable h => exact (hgiven _ List.mem_cons_self).copyOf (TypeRef.copyOf_of_setNullable h)
  | annotate h => exact (hgiven _ List.mem_cons_self).copyOf (TypeRef.copyOf_of_annotate h)
  | annotationOf c => exact ⟨rfl, rfl⟩
  | verbatim h => exact nomatch h
  | projected h => exact nomatch h
  | functionType h => exact nomatch h
  | _ => trivial

/-- **Values that are obtained without literals have no redundant parts.** -/
theorem Obtainable.plain {v : Value} (h : Obtainable false v) : v.Plain :=
  (h.throughout (fun hmakes hgiven => hmakes.plain (fun u hu => (hgiven u hu).here))).here

/-- **Whatever stands in an obtainable value is well-formed**, at every depth:
classes have names, applied classes have arguments and are plain references,
bounds are settled, and a definite parameter is not nullable and has more than
a top type to intersect with. Where no literals are used, no projection is
`out Any?` and all annotation classes are plain references besides. -/
theorem Obtainable.wellFormed_of_within {literals : Bool} {v u : Value}
    (h : Obtainable literals v) (hu : v.Within u) :
    u.WellFormed ∧ (literals = false → u.Plain) := by
  have hinner : Obtainable literals u := h.within hu
  refine ⟨hinner.wellFormed, fun hliterals => ?_⟩
  subst hliterals
  exact hinner.plain

/-- The definite form of a parameter `T : CharSequence`. -/
def definiteSequence : TypeParameter TypeRef :=
  ⟨"T", [.charSequence], .invariant, .definite, false, []⟩

/-- The type `List<T & Any>` over it. -/
def listOfDefinite : Applied TypeRef :=
  ⟨.topLevel "kotlin.collections" "List", [.ofParameter definiteSequence], false, []⟩

/-- The parameter can be obtained, with an `Any?` given beside its bound. -/
theorem obtainable_definiteSequence (literals : Bool) :
    Obtainable literals (.type (.ofParameter definiteSequence)) := by
  have hbound : Obtainable literals (.type .charSequence) :=
    obtainable_topLevel literals "kotlin" "CharSequence"
  have hplain : Obtainable literals
      (.type (.ofParameter (.ofBounds "T" [.nullableAny, .charSequence]))) :=
    .made (.parameter (c := .ofBounds "T" [.nullableAny, .charSequence]) rfl)
      (List.forall_mem_cons.mpr
        ⟨obtainable_nullableAny literals, List.forall_mem_singleton.mpr hbound⟩)
  exact .made (.change (v := .ofBounds "T" [.nullableAny, .charSequence]) (c := .definite) rfl)
    (List.forall_mem_singleton.mpr hplain)

/-- And so can the list. -/
theorem obtainable_listOfDefinite (literals : Bool) :
    Obtainable literals (.type (.ofApplied listOfDefinite)) := by
  have hclass : Obtainable literals (.type (.ofClass (.collections "List"))) :=
    obtainable_topLevel literals "kotlin.collections" "List"
  have happlied : TypeRef.applied (.collections "List") [.ofParameter definiteSequence]
      = .ok (.ofApplied listOfDefinite) := rfl
  exact .made (.applied happlied)
    (List.forall_mem_cons.mpr
      ⟨hclass, List.forall_mem_singleton.mpr (obtainable_definiteSequence literals)⟩)

/-- The list and the parameter in it. -/
theorem Obtainable.wellFormed_of_within_listOfDefinite :
    Obtainable false (.type (.ofApplied listOfDefinite))
      ∧ (Value.type (.ofApplied listOfDefinite)).Within (.type (.ofParameter definiteSequence))
      ∧ (Value.type (.ofParameter definiteSequence)).WellFormed
      ∧ (Value.type (.ofParameter definiteSequence)).Plain := by
  have hlist := obtainable_listOfDefinite false
  have hargument : (Value.type (.ofApplied listOfDefinite)).Within
      (.type (.ofParameter definiteSequence)) :=
    .inside .here (List.mem_cons_of_mem _
      (Value.mem_parts_type.mpr (.inl ⟨_, List.mem_cons_self, rfl⟩)))
  obtain ⟨hwellFormed, hplain⟩ := hlist.wellFormed_of_within hargument
  exact ⟨hlist, hargument, hwellFormed, hplain rfl⟩

end KotlinTypes
