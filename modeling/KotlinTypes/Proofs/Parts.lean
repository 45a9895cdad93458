import KotlinTypes.TypeRef.Basic

/-!
# The parts of a type

A type contains types: an applied class its arguments, a type parameter its
bounds, a projection the type it lets through, a function type its receiver,
its parameters and its result. `TypeRef.parts` lists those that stand in a
type directly, whatever its kind, so that what is said of a type *and of all
it contains, at any depth* is one notion, `TypeRef.Everywhere`, and not one
recursion per property.

A part is smaller than the type it stands in. What holds of a type as soon as
it holds of its parts therefore holds of every type
(`TypeRef.inductionOnParts`), which is the induction all further modules use.
-/

namespace KotlinTypes

/-- **A property that holds at every depth** of something that has parts: of
the whole, of its parts, of their parts and so on. -/
inductive Throughout {τ : Type} (parts : τ → List τ) (P : τ → Prop) : τ → Prop where
  /-- It holds here and throughout the parts. -/
  | intro {t : τ} (here : P t) (inParts : ∀ u ∈ parts t, Throughout parts P u) :
      Throughout parts P t

namespace Throughout

variable {τ : Type} {parts : τ → List τ} {P : τ → Prop} {t u : τ}

/-- What holds at every depth holds of the whole. -/
theorem here (h : Throughout parts P t) : P t := by
  cases h with
  | intro here _ => exact here

/-- What holds at every depth of the whole holds at every depth of a part. -/
theorem inPart (h : Throughout parts P t) (hu : u ∈ parts t) : Throughout parts P u := by
  cases h with
  | intro _ inParts => exact inParts u hu

/-- What follows from a property at one depth follows at every depth. -/
theorem imp {Q : τ → Prop} (h : Throughout parts P t) (hPQ : ∀ u, P u → Q u) :
    Throughout parts Q t := by
  induction h with
  | intro here _ ih => exact .intro (hPQ _ here) ih

end Throughout

/-- The type a projection lets through, if it names one. -/
def Projection.type? {τ : Type} : Projection τ → Option τ
  | .star => none
  | .producer type | .consumer type => some type

namespace TypeRef

/-- **The parts of a type**: the types that stand in it directly, in the order
in which they are written. -/
def parts : TypeRef → List TypeRef
  | .ofClass _ | .dynamic => []
  | .ofApplied a => a.arguments
  | .ofParameter v => v.bounds
  | .ofProjected w => w.projection.type?.toList
  | .ofFunction f => f.receiver.toList ++ f.parameters ++ [f.result]

/-- The parts of a function type. -/
@[simp] theorem mem_parts_ofFunction (f : FunctionType TypeRef) (u : TypeRef) :
    u ∈ (ofFunction f).parts ↔ f.receiver = some u ∨ u ∈ f.parameters ∨ u = f.result := by
  rw [parts, List.mem_append, List.mem_append, Option.mem_toList, List.mem_singleton, or_assoc]

/-- The receiver of a function type is a part of it. -/
theorem receiver_mem_parts {f : FunctionType TypeRef} {u : TypeRef} (h : f.receiver = some u) :
    u ∈ (ofFunction f).parts :=
  (mem_parts_ofFunction f u).mpr (.inl h)

/-- The parameters of a function type are parts of it. -/
theorem parameter_mem_parts {f : FunctionType TypeRef} {u : TypeRef} (h : u ∈ f.parameters) :
    u ∈ (ofFunction f).parts :=
  (mem_parts_ofFunction f u).mpr (.inr (.inl h))

/-- The result of a function type is a part of it. -/
theorem result_mem_parts (f : FunctionType TypeRef) : f.result ∈ (ofFunction f).parts :=
  (mem_parts_ofFunction f f.result).mpr (.inr (.inr rfl))

/-- A part is smaller than the type it stands in. -/
theorem sizeOf_lt_of_mem_parts {t u : TypeRef} (h : u ∈ t.parts) : sizeOf u < sizeOf t := by
  cases t with
  | ofClass c => cases h
  | dynamic => cases h
  | ofApplied a =>
    obtain ⟨base, arguments, nullable, annotations⟩ := a
    have hlt : sizeOf u < sizeOf arguments := List.sizeOf_lt_of_mem h
    simp
    omega
  | ofParameter v =>
    obtain ⟨name, bounds, variance, nullness, reified, annotations⟩ := v
    have hlt : sizeOf u < sizeOf bounds := List.sizeOf_lt_of_mem h
    simp
    omega
  | ofProjected w =>
    obtain ⟨projection, annotations⟩ := w
    cases projection with
    | star => cases h
    | producer type =>
      obtain rfl : u = type := List.mem_singleton.mp h
      simp
      omega
    | consumer type =>
      obtain rfl : u = type := List.mem_singleton.mp h
      simp
      omega
  | ofFunction f =>
    obtain ⟨receiver, parameters, result, suspending, nullable, annotations⟩ := f
    rcases (mem_parts_ofFunction _ u).mp h with hr | hp | hresult
    · obtain rfl : receiver = some u := hr
      simp
      omega
    · have hlt : sizeOf u < sizeOf parameters := List.sizeOf_lt_of_mem hp
      simp
      omega
    · obtain rfl : u = result := hresult
      simp
      omega

/-- **Induction on the parts of a type**: what passes from the parts of a type
to the type holds of every type. -/
@[elab_as_elim]
theorem inductionOnParts {motive : TypeRef → Prop} (t : TypeRef)
    (step : ∀ t : TypeRef, (∀ u ∈ t.parts, motive u) → motive t) : motive t :=
  step t (fun u _ => inductionOnParts u step)
termination_by sizeOf t
decreasing_by exact sizeOf_lt_of_mem_parts ‹_›

/-- **A property of types that holds at every depth.** -/
abbrev Everywhere (P : TypeRef → Prop) : TypeRef → Prop :=
  Throughout parts P

end TypeRef

end KotlinTypes
