import KotlinTypes.TypeParameter

/-!
# The ledger of a type parameter

A type parameter settles its bounds as soon as it is given some: `Any?` is
left out of them at once, and what is added later is added to the settled
list. A **ledger** settles nothing. It keeps the declared bounds word for
word, one flag for `?` and one for `& Any`, and looks at what the bounds
amount to only where it is asked.

The two are driven by the same history: a construction, then changes in any
order, where a change that is refused leaves everything in place. The ledger
makes no use of how a parameter is stored, so it says what a parameter's
operations mean – and `TypeParameter.observed_eq` says that they do: after
every step of every history the two refuse the same changes for the same
reasons, and answer every question alike.

One step carries the whole of it. A ledger has a **settled form**, which is a
parameter, and changing a ledger and settling it is changing its settled form
(`Ledger.applyTo_settled`). Answering alike needs the ledger not to be nullable
and definite at once, which no change ever makes it (`Ledger.Coherent`). A
ledger **tracks** a parameter when one history led to both. The parameter is
then its settled form (`Ledger.Tracks.eq_settled`), and the two flags of the
ledger are never both set (`Ledger.Tracks.coherent`), which in the parameter no
data could say.
-/

namespace KotlinTypes

/-! ## Histories -/

/-- **How a type parameter is first made.** -/
inductive Construction where
  /-- From a name alone. -/
  | unbounded (name : String)
  /-- From a name and bounds. -/
  | ofBounds (name : String) (bounds : List TypeRef)
  /-- From a name and the modifier of its declaration. -/
  | ofModifier (name : String) (modifier : Option Modifier)
  /-- From a name, the modifier of its declaration and bounds. -/
  | declared (name : String) (modifier : Option Modifier) (bounds : List TypeRef)

/-- **A change** asked of a type parameter. -/
inductive Change where
  /-- Another nullability. -/
  | setNullable (nullable : Bool)
  /-- Reified or not. -/
  | setReified (reified : Bool)
  /-- Other bounds. -/
  | setBounds (bounds : List TypeRef)
  /-- More bounds. -/
  | addBounds (bounds : List TypeRef)
  /-- More annotations. -/
  | annotate (annotations : List AnnotationUse)
  /-- The definite form. -/
  | definite

/-- **What can be asked of a type parameter**, all of it. -/
structure Inspection where
  /-- Its name. -/
  name : String
  /-- Its declaration-site variance. -/
  variance : Variance
  /-- Its upper bounds, never none. -/
  upperBounds : List TypeRef
  /-- The bounds source text spells out. -/
  writtenBounds : List TypeRef
  /-- Whether no bounds are written. -/
  isUnbounded : Bool
  /-- Whether two bounds or more are written. -/
  hasSeveralBounds : Bool
  /-- Whether a reference to it allows `null`. -/
  isNullable : Bool
  /-- Whether its type is known at run time. -/
  isReified : Bool
  /-- Whether it is in the definite form. -/
  isDefinite : Bool
  /-- Its annotations. -/
  annotations : List AnnotationUse

section Runs

variable {σ : Type} (change : σ → Change → Except Rejection σ) (inspect : σ → Inspection)

/-- One attempt: a change that is refused leaves the state in place. -/
def attempt (s : σ) (c : Change) : σ :=
  match change s c with
  | .ok s' => s'
  | .error _ => s

/-- **What a run shows**: for every change, the refusal if it is refused, and
then all that can be asked of the state after it. -/
def observe (s : σ) : List Change → List (Option Rejection × Inspection)
  | [] => []
  | c :: rest =>
      match change s c with
      | .ok s' => (none, inspect s') :: observe s' rest
      | .error r => (some r, inspect s) :: observe s rest

/-- What a whole history shows: the refusal of the construction, or what can
be asked of the first state and what the run of changes shows from there. -/
def observed (made : Except Rejection σ) (changes : List Change) :
    Except Rejection (Inspection × List (Option Rejection × Inspection)) :=
  made.map (fun s => (inspect s, observe change inspect s changes))

end Runs

/-! ## The history of a parameter -/

namespace TypeParameter

/-- The parameter a construction makes. -/
def make : Construction → Except Rejection (TypeParameter TypeRef)
  | .unbounded name => .ok (unbounded name)
  | .ofBounds name bounds => .ok (ofBounds name bounds)
  | .ofModifier name modifier => declared name modifier []
  | .declared name modifier bounds => declared name modifier bounds

/-- The parameter a change asks for. -/
def applyTo (v : TypeParameter TypeRef) : Change → Except Rejection (TypeParameter TypeRef)
  | .setNullable nullable => v.setNullable nullable
  | .setReified reified => .ok (v.setReified reified)
  | .setBounds bounds => v.setBounds bounds
  | .addBounds bounds => v.addBounds bounds
  | .annotate annotations => .ok (v.annotate annotations)
  | .definite => v.definite

/-- What a parameter answers. -/
def inspect (v : TypeParameter TypeRef) : Inspection where
  name := v.name
  variance := v.variance
  upperBounds := v.upperBounds
  writtenBounds := v.bounds
  isUnbounded := v.bounds.isEmpty
  hasSeveralBounds := v.hasSeveralBounds
  isNullable := v.isNullable
  isReified := v.reified
  isDefinite := v.isDefinite
  annotations := v.annotations

end TypeParameter

/-! ## The ledger -/

/-- **The ledger of a type parameter**: what has been declared, unsettled. -/
structure Ledger where
  /-- The name. -/
  name : String
  /-- The declaration-site variance. -/
  variance : Variance
  /-- The bounds as they were declared, `Any?` among them or not. -/
  declared : List TypeRef
  /-- Whether `?` has been asked for. -/
  nullable : Bool
  /-- Whether the type is known at run time. -/
  reified : Bool
  /-- Whether `& Any` has been asked for. -/
  definite : Bool
  /-- The annotations. -/
  annotations : List AnnotationUse

namespace Ledger

/-- The ledger of a parameter about which only name, variance and bounds are
known. -/
def start (name : String) (variance : Variance) (bounds : List TypeRef) : Ledger :=
  ⟨name, variance, bounds, false, false, false, []⟩

/-- The ledger of a declaration. Only `in` and `out` declare a variance. -/
def startWith (name : String) (modifier : Option Modifier) (bounds : List TypeRef) :
    Except Rejection Ledger :=
  match modifier with
  | none => .ok (start name .invariant bounds)
  | some m =>
      if m = .contravariant then .ok (start name .contravariant bounds)
      else if m = .covariant then .ok (start name .covariant bounds)
      else .error (.notAVariance name m)

/-- The ledger a construction opens. -/
def make : Construction → Except Rejection Ledger
  | .unbounded name => .ok (start name .invariant [])
  | .ofBounds name bounds => .ok (start name .invariant bounds)
  | .ofModifier name modifier => startWith name modifier []
  | .declared name modifier bounds => startWith name modifier bounds

/-- **The bounds that count**: the declared ones without `Any?`. -/
def effective (d : Ledger) : List TypeRef :=
  d.declared.filter (fun t => t ≠ .nullableAny)

/-- **The rules of the definite form**, in the order in which they are
looked at: it is entered once, not from a nullable parameter, and not where
the bounds that count are none at all or just `Any`. -/
def makeDefinite (d : Ledger) : Except Rejection Ledger :=
  if d.definite then .error (.alreadyDefinite d.name)
  else if d.nullable then .error (.definiteOfNullable d.name)
  else if d.effective = [] then .error (.definiteOfTop d.name "Any?")
  else if d.effective = [.any] then .error (.definiteOfTop d.name "Any")
  else .ok { d with definite := true }

/-- The ledger after a change. -/
def applyTo (d : Ledger) : Change → Except Rejection Ledger
  | .setNullable nullable =>
      if d.definite then
        .error (if nullable then .nullableDefinite d.name else .nonNullDefinite d.name)
      else .ok { d with nullable }
  | .setReified reified => .ok { d with reified }
  | .setBounds bounds =>
      if d.definite then .error (.boundsOfDefinite d.name) else .ok { d with declared := bounds }
  | .addBounds bounds =>
      if d.definite then .error (.boundsOfDefinite d.name)
      else .ok { d with declared := d.declared ++ bounds }
  | .annotate annotations => .ok { d with annotations := d.annotations ++ annotations }
  | .definite => d.makeDefinite

/-- What a ledger answers. -/
def inspect (d : Ledger) : Inspection where
  name := d.name
  variance := d.variance
  upperBounds := if d.effective = [] then [.nullableAny] else d.effective
  writtenBounds := d.effective
  isUnbounded := d.effective = []
  hasSeveralBounds := 2 ≤ d.effective.length
  isNullable := d.nullable
  isReified := d.reified
  isDefinite := d.definite
  annotations := d.annotations

/-! ## The settled form -/

/-- What the two flags of a ledger say about `null`. -/
def nullness (d : Ledger) : Nullness :=
  if d.definite then .definite else if d.nullable then .nullable else .plain

/-- **The settled form of a ledger**: the parameter it describes. -/
def settled (d : Ledger) : TypeParameter TypeRef :=
  ⟨d.name, d.effective, d.variance, d.nullness, d.reified, d.annotations⟩

/-- **A ledger is coherent** when it is not nullable and definite at once. -/
def Coherent (d : Ledger) : Prop :=
  d.definite = true → d.nullable = false

/-- The bounds that count are those that constrain. -/
theorem effective_eq (d : Ledger) : d.effective = Bounds.constraining d.declared :=
  (Bounds.constraining_eq_filter d.declared).symm

/-- Every bound that counts constrains. -/
@[simp] theorem constraining_effective (d : Ledger) :
    Bounds.constraining d.effective = d.effective := by
  rw [effective_eq, Bounds.constraining_constraining]

/-- The settled form of a ledger is definite where the ledger is. -/
@[simp] theorem isDefinite_settled (d : Ledger) : d.settled.isDefinite = d.definite := by
  show decide (d.nullness = .definite) = d.definite
  unfold nullness
  cases d.definite <;> cases d.nullable <;> rfl

/-- The settled form of a coherent ledger is nullable where the ledger is. -/
theorem isNullable_settled {d : Ledger} (h : d.Coherent) : d.settled.isNullable = d.nullable := by
  show decide (d.nullness = .nullable) = d.nullable
  unfold nullness
  cases hd : d.definite with
  | true => rw [h hd]; rfl
  | false => cases d.nullable <;> rfl

/-- The upper bounds of the settled form are what the ledger's bounds come
to. -/
theorem upperBounds_settled (d : Ledger) :
    d.settled.upperBounds = if d.effective = [] then [.nullableAny] else d.effective := by
  show Bounds.upper d.effective = _
  by_cases h : d.effective = []
  · rw [if_pos h, Bounds.upper_of_nil (by rw [constraining_effective, h])]
  · rw [if_neg h, Bounds.upper_of_ne_nil (by rwa [constraining_effective]), constraining_effective]

/-- **A coherent ledger and its settled form answer alike.** -/
theorem inspect_settled {d : Ledger} (h : d.Coherent) : d.settled.inspect = d.inspect := by
  have hempty : d.effective.isEmpty = decide (d.effective = []) := by
    cases d.effective <;> rfl
  unfold TypeParameter.inspect inspect
  rw [isNullable_settled h, isDefinite_settled, upperBounds_settled]
  show Inspection.mk _ _ _ _ d.effective.isEmpty _ _ _ _ _ = _
  rw [hempty]
  rfl

/-! ## Every step, and every run -/

/-- No construction opens a ledger in the definite form. -/
theorem definite_of_make {c : Construction} {d : Ledger} (h : make c = .ok d) :
    d.definite = false := by
  have hstart : ∀ {name : String} {modifier : Option Modifier} {bounds : List TypeRef},
      startWith name modifier bounds = .ok d → d.definite = false := by
    intro name modifier bounds h
    unfold startWith at h
    split at h
    · cases h; rfl
    · split at h
      · cases h; rfl
      · split at h
        · cases h; rfl
        · cases h
  cases c with
  | unbounded name => cases h; rfl
  | ofBounds name bounds => cases h; rfl
  | ofModifier name modifier => exact hstart h
  | declared name modifier bounds => exact hstart h

/-- A ledger is coherent when it is opened: a construction sets neither flag. -/
theorem coherent_of_make {c : Construction} {d : Ledger} (h : make c = .ok d) : d.Coherent :=
  fun hd => absurd hd (by simp [definite_of_make h])

/-- A ledger that can be made definite is neither definite nor nullable, and
some bound other than `Any` counts in it. -/
theorem makeDefinite_eq_ok {d d' : Ledger} (h : d.makeDefinite = .ok d') :
    d.definite = false ∧ d.nullable = false ∧ d.effective ≠ [] ∧ d.effective ≠ [.any]
      ∧ d' = { d with definite := true } := by
  unfold makeDefinite at h
  split at h
  · cases h
  · next hd =>
    split at h
    · cases h
    · next hn =>
      split at h
      · cases h
      · next hnil =>
        split at h
        · cases h
        · next hany =>
          cases h
          exact ⟨by simpa using hd, by simpa using hn, hnil, hany, rfl⟩

/-- **No change makes a ledger incoherent**: the two flags shut each other
out. -/
theorem coherent_of_applyTo {d d' : Ledger} (hd : d.Coherent) {c : Change}
    (h : d.applyTo c = .ok d') : d'.Coherent := by
  cases c with
  | setReified reified => cases h; exact hd
  | annotate annotations => cases h; exact hd
  | definite =>
    obtain ⟨-, hn, -, -, rfl⟩ := makeDefinite_eq_ok h
    exact fun _ => hn
  | setNullable nullable =>
    simp only [applyTo] at h
    split at h
    · cases h
    · next hdef => cases h; exact fun hc => absurd hc hdef
  | setBounds bounds =>
    simp only [applyTo] at h
    split at h
    · cases h
    · cases h; exact hd
  | addBounds bounds =>
    simp only [applyTo] at h
    split at h
    · cases h
    · cases h; exact hd

/-- The modifier of a declaration counts for a parameter as for a ledger. -/
theorem declared_eq_startWith (name : String) (modifier : Option Modifier)
    (bounds : List TypeRef) :
    TypeParameter.declared name modifier bounds
      = (startWith name modifier bounds).map settled := by
  have hstart : ∀ variance : Variance,
      { TypeParameter.ofBounds name bounds with variance }
        = (start name variance bounds).settled := by
    intro variance
    show TypeParameter.mk name (Bounds.constraining bounds) variance .plain false [] = _
    rw [settled, effective_eq]
    rfl
  unfold TypeParameter.declared startWith
  cases modifier with
  | none => exact congrArg Except.ok (hstart .invariant)
  | some m =>
    cases m
    case contravariant => exact congrArg Except.ok (hstart .contravariant)
    case covariant => exact congrArg Except.ok (hstart .covariant)
    all_goals rfl

/-- **A construction makes the settled form of the ledger it opens**, and
fails where that does. -/
theorem make_eq_settled (c : Construction) : TypeParameter.make c = (make c).map settled := by
  have hplain : ∀ (name : String) (bounds : List TypeRef),
      TypeParameter.ofBounds name bounds = (start name .invariant bounds).settled := by
    intro name bounds
    rw [settled, effective_eq]
    rfl
  cases c with
  | unbounded name => exact congrArg Except.ok (hplain name [])
  | ofBounds name bounds => exact congrArg Except.ok (hplain name bounds)
  | ofModifier name modifier => exact declared_eq_startWith name modifier []
  | declared name modifier bounds => exact declared_eq_startWith name modifier bounds

/-- `Any?` never counts. -/
theorem nullableAny_notMem_effective (d : Ledger) : TypeRef.nullableAny ∉ d.effective := by
  intro h
  exact of_decide_eq_true (List.mem_filter.mp h).2 rfl

/-- Making a ledger definite and settling it is making its settled form
definite. -/
theorem definite_settled (d : Ledger) : d.settled.definite = d.makeDefinite.map settled := by
  unfold TypeParameter.definite makeDefinite
  rw [upperBounds_settled]
  cases hd : d.definite with
  | true =>
    rw [show d.settled.nullness = .definite by simp [settled, nullness, hd]]
    rfl
  | false =>
    cases hn : d.nullable with
    | true =>
      rw [show d.settled.nullness = .nullable by simp [settled, nullness, hd, hn]]
      rfl
    | false =>
      rw [show d.settled.nullness = .plain by simp [settled, nullness, hd, hn]]
      have hok : (Except.ok { d.settled with nullness := .definite } : Except Rejection _)
          = (Except.ok { d with nullable := false, definite := true }).map settled := rfl
      have hnotTop := d.nullableAny_notMem_effective
      match hbounds : d.effective with
      | [] => rfl
      | [bound] =>
        by_cases hany : bound = .any
        · subst hany
          rfl
        · have htop : bound.isTop = false := by
            rw [hbounds] at hnotTop
            have hne : bound ≠ .nullableAny := fun h => hnotTop (h ▸ List.mem_singleton_self _)
            rw [Bool.eq_false_iff, ne_eq, TypeRef.isTop_iff]
            exact not_or_intro hany hne
          simpa [htop, hany] using hok
      | bound₁ :: bound₂ :: rest => simpa using hok

/-- **One step.** Changing a ledger and settling it is changing its settled
form, refusals included. -/
theorem applyTo_settled (d : Ledger) (c : Change) :
    d.settled.applyTo c = (d.applyTo c).map settled := by
  cases c with
  | setReified reified => rfl
  | annotate annotations => rfl
  | definite => exact definite_settled d
  | setNullable nullable =>
    show d.settled.setNullable nullable = _
    unfold TypeParameter.setNullable
    rw [isDefinite_settled]
    simp only [applyTo]
    cases hd : d.definite with
    | true => rfl
    | false => simp [settled, nullness, hd, Except.map, effective]
  | setBounds bounds =>
    show d.settled.setBounds bounds = _
    unfold TypeParameter.setBounds
    rw [isDefinite_settled]
    simp only [applyTo]
    cases hd : d.definite with
    | true => rfl
    | false => simp [settled, nullness, hd, Except.map, effective_eq]
  | addBounds bounds =>
    show d.settled.setBounds (d.settled.upperBounds ++ bounds) = _
    unfold TypeParameter.setBounds
    rw [isDefinite_settled, Bounds.constraining_append, TypeParameter.upperBounds,
      Bounds.constraining_upper]
    simp only [applyTo]
    cases hd : d.definite with
    | true => rfl
    | false => simp [settled, nullness, hd, Except.map, effective_eq]

/-- **Every run.** From a coherent ledger and from its settled form, a run of
changes shows the same. -/
theorem observe_settled {d : Ledger} (h : d.Coherent) (changes : List Change) :
    observe TypeParameter.applyTo TypeParameter.inspect d.settled changes
      = observe applyTo inspect d changes := by
  induction changes generalizing d with
  | nil => rfl
  | cons c rest ih =>
    unfold observe
    rw [applyTo_settled]
    cases hc : d.applyTo c with
    | error r =>
      show (_, d.settled.inspect) :: observe _ _ d.settled rest
        = (_, d.inspect) :: observe _ _ d rest
      rw [inspect_settled h, ih h]
    | ok d' =>
      have h' := coherent_of_applyTo h hc
      show (_, d'.settled.inspect) :: observe _ _ d'.settled rest
        = (_, d'.inspect) :: observe _ _ d' rest
      rw [inspect_settled h', ih h']

/-- **A ledger tracks a parameter** when one history led to both: a
construction that makes them, then changes that are attempted on both. -/
inductive Tracks : Ledger → TypeParameter TypeRef → Prop where
  /-- The first entry. -/
  | made {c : Construction} {d : Ledger} {v : TypeParameter TypeRef} (hd : make c = .ok d)
      (hv : TypeParameter.make c = .ok v) : Tracks d v
  /-- A change, refused or not. -/
  | attempted {d : Ledger} {v : TypeParameter TypeRef} (h : Tracks d v) (c : Change) :
      Tracks (attempt applyTo d c) (attempt TypeParameter.applyTo v c)

/-- **An invariant of ledgers**, which constructions establish and changes
keep, holds of every ledger that tracks a parameter. -/
theorem Tracks.invariant {P : Ledger → Prop}
    (hmake : ∀ {c : Construction} {d : Ledger}, make c = .ok d → P d)
    (happly : ∀ {d d' : Ledger} {c : Change}, P d → d.applyTo c = .ok d' → P d')
    {d : Ledger} {v : TypeParameter TypeRef} (h : Tracks d v) : P d := by
  induction h with
  | made hd _ => exact hmake hd
  | attempted _ c ih =>
    unfold attempt
    split
    · next hc => exact happly ih hc
    · exact ih

/-- **No ledger that tracks a parameter is nullable and definite at once.** -/
theorem Tracks.coherent {d : Ledger} {v : TypeParameter TypeRef} (h : Tracks d v) :
    d.Coherent :=
  h.invariant coherent_of_make (fun hd hc => coherent_of_applyTo hd hc)

/-- An attempt on the settled form is an attempt on the ledger. -/
theorem attempt_settled (d : Ledger) (c : Change) :
    attempt TypeParameter.applyTo d.settled c = (attempt applyTo d c).settled := by
  unfold attempt
  rw [applyTo_settled]
  cases d.applyTo c with
  | ok d' => rfl
  | error r => rfl

/-- **A parameter is the settled form of the ledger that tracks it.** -/
theorem Tracks.eq_settled {d : Ledger} {v : TypeParameter TypeRef} (h : Tracks d v) :
    v = d.settled := by
  induction h with
  | made hd hv =>
    rw [make_eq_settled, hd] at hv
    exact (Except.ok.inj hv).symm
  | attempted _ c ih => rw [ih, attempt_settled]

end Ledger

/-- **A type parameter does what its ledger says**, over every history: a
construction is refused by both for the same reason or made by both; after
that every change is refused by both for the same reason or made by both; and
after every step both give the same answer to every question. -/
theorem TypeParameter.observed_eq (c : Construction) (changes : List Change) :
    observed TypeParameter.applyTo TypeParameter.inspect (TypeParameter.make c) changes
      = observed Ledger.applyTo Ledger.inspect (Ledger.make c) changes := by
  unfold observed
  rw [Ledger.make_eq_settled]
  cases hd : Ledger.make c with
  | error r => rfl
  | ok d =>
    have h := Ledger.coherent_of_make hd
    show Except.ok (d.settled.inspect, _) = Except.ok (d.inspect, _)
    rw [Ledger.inspect_settled h, Ledger.observe_settled h]

end KotlinTypes
