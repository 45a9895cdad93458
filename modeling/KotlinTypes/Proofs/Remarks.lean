import Mathlib.Data.Finset.Card
import KotlinTypes.Generics
import KotlinTypes.Proofs.Adding

/-!
# What rendering notes

`Generics.renderLogged` goes through the parameters twice, once to write their
entries and once to collect their remarks. Here the two are one walk. To note
is one of the effects that a step of writing may have (`WriterM`), so a step can
say what it has to say on its way, with the printer at hand and so with the
style, and `TypeParameter.narrate` writes an entry like that, looking at each
bound together with the bounds before it. Narrating leaves the generics and the
remarks, in this order and nothing in between (`Generics.narrate_eq`): the style
reaches the text and not the log.

What remains is to know the warnings. They are collected with the bounds seen
so far at hand, and stand for the places whose bound has an earlier place
(`repeated_eq_map`); there are as many of them as bounds in excess of the set of
bounds (`length_repeated`).
-/

namespace KotlinTypes

/-! ## Repeated elements -/

section Repeated

variable {α : Type} [DecidableEq α]

/-- **The places of repeated elements**: those whose element stands at an
earlier place too, in order. -/
def repeatedPlaces (xs : List α) : List (Fin xs.length) :=
  (List.finRange xs.length).filter (fun i => ∃ j < i, xs.get j = xs.get i)

theorem mem_repeatedPlaces {xs : List α} {i : Fin xs.length} :
    i ∈ repeatedPlaces xs ↔ ∃ j < i, xs.get j = xs.get i := by
  rw [repeatedPlaces, List.mem_filter, decide_eq_true_iff]
  exact and_iff_right (List.mem_finRange i)

omit [DecidableEq α] in
/-- An element stands at an earlier place if it is among the elements before it. -/
theorem get_mem_take_iff {xs : List α} {i : Fin xs.length} :
    xs.get i ∈ xs.take i ↔ ∃ j < i, xs.get j = xs.get i := by
  rw [List.mem_take_iff_getElem]
  constructor
  · rintro ⟨j, hj, heq⟩
    exact ⟨⟨j, by omega⟩, Fin.mk_lt_of_lt_val (by omega), heq⟩
  · rintro ⟨j, hj, heq⟩
    exact ⟨j, by omega, heq⟩

/-- Places come in order, each of them once. -/
theorem pairwise_repeatedPlaces (xs : List α) : (repeatedPlaces xs).Pairwise (· < ·) :=
  (List.pairwise_lt_finRange xs.length).filter _

/-- **Going through a list with the elements seen so far** finds the places whose
element was seen before or stands at an earlier place. -/
theorem repeatedAfter_eq_map (seen xs : List α) :
    repeatedAfter seen xs
      = ((List.finRange xs.length).filter
          (fun i => xs.get i ∈ seen ∨ ∃ j < i, xs.get j = xs.get i)).map xs.get := by
  induction xs generalizing seen with
  | nil => rfl
  | cons x rest ih =>
    have hfirst : ((x :: rest).get 0 ∈ seen ∨ ∃ j < 0, (x :: rest).get j = (x :: rest).get 0)
        ↔ x ∈ seen :=
      or_iff_left (fun ⟨j, hj, _⟩ => Fin.not_lt_zero j hj)
    -- the first element counts as seen for all later ones
    have hlater : ∀ i : Fin rest.length,
        ((x :: rest).get i.succ ∈ seen
            ∨ ∃ j < i.succ, (x :: rest).get j = (x :: rest).get i.succ)
          ↔ rest.get i ∈ x :: seen ∨ ∃ j < i, rest.get j = rest.get i := by
      intro i
      show (rest.get i ∈ seen ∨ ∃ j < i.succ, (x :: rest).get j = rest.get i) ↔ _
      rw [Fin.exists_fin_succ, List.mem_cons]
      simp only [Fin.succ_pos, true_and, Fin.succ_lt_succ_iff, List.get_cons_zero, eq_comm (a := x)]
      exact or_assoc.symm.trans (or_congr_left or_comm)
    have hrest : ((List.finRange rest.length).map Fin.succ).filter
          (fun i => (x :: rest).get i ∈ seen ∨ ∃ j < i, (x :: rest).get j = (x :: rest).get i)
        = ((List.finRange rest.length).filter
          (fun i => rest.get i ∈ x :: seen ∨ ∃ j < i, rest.get j = rest.get i)).map Fin.succ := by
      rw [List.filter_map]
      exact congrArg (List.map Fin.succ)
        (List.filter_congr (fun i _ => decide_eq_decide.mpr (hlater i)))
    show (if x ∈ seen then x :: repeatedAfter (x :: seen) rest else repeatedAfter (x :: seen) rest)
      = ((List.finRange (rest.length + 1)).filter _).map _
    rw [List.finRange_succ, List.filter_cons, hrest, ih (x :: seen)]
    by_cases hx : x ∈ seen
    · rw [if_pos hx, if_pos (decide_eq_true (hfirst.mpr hx)), List.map_cons, List.map_map]
      rfl
    · rw [if_neg hx, if_neg (fun h => hx (hfirst.mp (of_decide_eq_true h))), List.map_map]
      rfl

/-- **The repeated elements stand at the repeated places.** -/
theorem repeated_eq_map (xs : List α) : repeated xs = (repeatedPlaces xs).map xs.get := by
  rw [repeated, repeatedAfter_eq_map]
  simp [repeatedPlaces]

/-- Every element counts as repeated, seen before, or new. -/
theorem length_repeatedAfter (seen xs : List α) :
    (repeatedAfter seen xs).length + (xs.toFinset \ seen.toFinset).card = xs.length := by
  induction xs generalizing seen with
  | nil => simp [repeatedAfter]
  | cons x rest ih =>
    have hrest := ih (x :: seen)
    rw [List.toFinset_cons] at hrest
    unfold repeatedAfter
    rw [List.toFinset_cons, List.length_cons]
    by_cases hx : x ∈ seen
    · have hmem : x ∈ seen.toFinset := List.mem_toFinset.mpr hx
      rw [Finset.insert_eq_of_mem hmem] at hrest
      rw [if_pos hx, List.length_cons, Finset.insert_sdiff_of_mem _ hmem]
      omega
    · have hnew : x ∉ seen.toFinset := fun hmem => hx (List.mem_toFinset.mp hmem)
      have hinsert : insert x rest.toFinset \ seen.toFinset
          = insert x (rest.toFinset \ insert x seen.toFinset) := by grind
      rw [if_neg hx, hinsert, Finset.card_insert_of_notMem (by simp)]
      omega

/-- **There are as many repeated elements as elements in excess of distinct
ones.** -/
theorem length_repeated (xs : List α) : (repeated xs).length = xs.length - xs.toFinset.card := by
  have h := length_repeatedAfter [] xs
  rw [List.toFinset_nil, Finset.sdiff_empty] at h
  exact Nat.eq_sub_of_add_eq h

end Repeated

/-! ## Writing and noting -/

/-- What a step notes stands before what the next one notes. -/
theorem Logged.mk_bind {α β : Type} (a : α) (log : List LogEntry) (f : α → Logged β) :
    (⟨a, log⟩ : Logged α) >>= f = ⟨(f a).value, log ++ (f a).log⟩ := rfl

/-- What a loop notes that notes something under a condition. -/
theorem Logged.forM_note_if {α : Type} (xs : List α) (condition : α → Prop)
    [DecidablePred condition] (level : Level) (message : α → String) :
    (xs.forM fun x => if condition x then note level (message x) else pure ())
      = ⟨(), (xs.filter condition).map (fun x => ⟨level, message x⟩)⟩ := by
  induction xs with
  | nil => rfl
  | cons x rest ih =>
    show ((if condition x then note level (message x) else pure ()) >>= fun _ =>
      rest.forM fun x => if condition x then note level (message x) else pure ()) = _
    rw [ih, List.filter_cons]
    by_cases hx : condition x
    · rw [if_pos hx, if_pos (decide_eq_true hx)]
      rfl
    · rw [if_neg hx, if_neg (fun h => hx (of_decide_eq_true h))]
      rfl

namespace Printer

variable {α : Type} {items : List α} {item : α → WriterM Logged} {write : α → Writer}
  {notes : α → List LogEntry} (h : ∀ x p, item x p = ⟨write x p, notes x⟩)

include h

/-- **A separated list of items that note** is written as if they did not, and
notes what they note, item by item. -/
theorem separatedM_logged (separator : String) (p : Printer) :
    separatedM separator items item p
      = ⟨separated separator items write p, items.flatMap notes⟩ := by
  have hfold : ∀ (rest : List α) (p : Printer),
      rest.foldlM (fun p y => item y (p.put separator)) p
        = (⟨rest.foldl (fun p y => write y (p.put separator)) p, rest.flatMap notes⟩
          : Logged Printer) := by
    intro rest
    induction rest with
    | nil => exact fun p => rfl
    | cons y rest ih =>
      intro p
      show (item y (p.put separator) >>= fun p =>
        rest.foldlM (fun p y => item y (p.put separator)) p) = _
      rw [h, Logged.mk_bind, ih]
      rfl
  cases items with
  | nil => rfl
  | cons x rest =>
    show (item x p >>= fun p => rest.foldlM (fun p y => item y (p.put separator)) p) = _
    rw [h, Logged.mk_bind, hfold]
    rfl

/-- And so is a list in angle brackets, which notes nothing of its own. -/
theorem angledM_logged (p : Printer) :
    angledM items item p = ⟨angled items write p, items.flatMap notes⟩ := by
  cases items with
  | nil => rfl
  | cons x rest =>
    show (separatedM ", " (x :: rest) item (p.putChar '<') >>= fun p => pure (p.putChar '>')) = _
    rw [separatedM_logged h, Logged.mk_bind, Logged.log_pure, List.append_nil]
    rfl

end Printer

/-! ## One parameter -/

namespace TypeParameter

/-- What is noted of every parameter. -/
def announcement (v : TypeParameter TypeRef) : LogEntry :=
  ⟨.trace,
    if v.isDefinite then v.name ++ " is definitely non-nullable, its bounds are not written"
    else v.name ++ " has " ++ Nat.repr v.bounds.length ++ " explicit bound(s)"⟩

/-- **The warnings on a parameter**, one for each repeated place among its bounds,
none in the definite form. -/
def warnings (v : TypeParameter TypeRef) : List LogEntry :=
  if v.isDefinite then []
  else (repeatedPlaces v.bounds).map (fun i =>
    ⟨.warn, v.name ++ " is bounded by " ++ (v.bounds.get i).text ++ " more than once"⟩)

/-- **The remarks on a parameter** are its announcement and the warnings. -/
theorem remarks_eq (v : TypeParameter TypeRef) : v.remarks = v.announcement :: v.warnings := by
  unfold remarks announcement warnings
  cases v.isDefinite with
  | true => rfl
  | false =>
    rw [repeated_eq_map, List.map_map]
    rfl

/-- **Writes the entry of a parameter and notes** what there is to note as it
comes to it: the kind of parameter after the name, and then, bound by bound,
whether the bound was given before. -/
def narrate (v : TypeParameter TypeRef) : WriterM Logged := fun p => do
  let p := AnnotationUse.writeAll v.annotations p
  let p := if v.reified then p.put "reified " else p
  let p :=
    match v.variance.keyword? with
    | none => p
    | some keyword => (p.put keyword).space
  let p := p.put v.name
  if v.isDefinite then
    Logged.note .trace (v.name ++ " is definitely non-nullable, its bounds are not written")
    return p.put " & " |> TypeRef.any.write
  else
    Logged.note .trace (v.name ++ " has " ++ Nat.repr v.bounds.length ++ " explicit bound(s)")
    let p :=
      match v.bounds with
      | [bound] => p.put " : " |> bound.write
      | _ => p
    (List.finRange v.bounds.length).forM fun i =>
      if v.bounds.get i ∈ v.bounds.take i then
        Logged.note .warn
          (v.name ++ " is bounded by " ++ (v.bounds.get i).text ++ " more than once")
      else pure ()
    return p

/-- **Narrating an entry** writes the entry and notes the remarks, wherever the
printer stands. -/
theorem narrate_eq (v : TypeParameter TypeRef) (p : Printer) :
    v.narrate p = ⟨v.writeEntry p, v.remarks⟩ := by
  rw [remarks_eq]
  unfold narrate writeEntry announcement warnings
  cases v.isDefinite with
  | true => rfl
  | false =>
    have hplaces : (List.finRange v.bounds.length).filter
          (fun i : Fin v.bounds.length => v.bounds.get i ∈ v.bounds.take i)
        = repeatedPlaces v.bounds :=
      List.filter_congr (fun i _ => decide_eq_decide.mpr get_mem_take_iff)
    simp only [Bool.false_eq_true, if_false]
    rw [Logged.forM_note_if, hplaces]
    -- what is left of the two sides differs by the empty log of the final `return`
    exact congrArg (fun warnings => Logged.mk _ (_ :: warnings)) (List.append_nil _)

/-- Announcements are steps of a render. -/
theorem level_announcement (v : TypeParameter TypeRef) : v.announcement.level = .trace := rfl

/-- Warnings are warnings. -/
theorem level_of_mem_warnings {v : TypeParameter TypeRef} {e : LogEntry} (h : e ∈ v.warnings) :
    e.level = .warn := by
  unfold warnings at h
  split at h
  · exact absurd h List.not_mem_nil
  · obtain ⟨i, -, rfl⟩ := List.mem_map.mp h
    rfl

/-- **There are as many warnings as bounds in excess of distinct ones**, unless
the parameter is definite. -/
theorem length_warnings {v : TypeParameter TypeRef} (h : v.isDefinite = false) :
    v.warnings.length = v.bounds.length - v.bounds.toFinset.card := by
  rw [warnings, h, ← length_repeated, repeated_eq_map, List.length_map]
  exact List.length_map _

end TypeParameter

/-! ## All parameters -/

namespace Generics

/-- **Renders the generics of a declaration and notes** what the entries note,
as they are written. The constraints note nothing. -/
def narrate (parameters : List (TypeParameter TypeRef)) (style : Style) : Logged Generics := do
  let list ← Printer.angledM parameters TypeParameter.narrate (.start style)
  let constraints := Printer.separated ", " (parameters.flatMap TypeParameter.constraints)
    writeConstraint (.start style)
  return ⟨list.text, constraints.text⟩

/-- **Narrating is rendering and noting the remarks.** -/
theorem narrate_eq (parameters : List (TypeParameter TypeRef)) (style : Style) :
    narrate parameters style = renderLogged parameters style := by
  unfold narrate
  rw [Printer.angledM_logged TypeParameter.narrate_eq, Logged.mk_bind, Logged.log_pure,
    List.append_nil]
  rfl

/-- The steps of a render are the announcements of its parameters. -/
theorem filter_trace_remarks (parameters : List (TypeParameter TypeRef)) :
    (remarks parameters).filter (fun e => e.level = .trace)
      = parameters.map TypeParameter.announcement := by
  have hwarnings (v : TypeParameter TypeRef) :
      v.warnings.filter (fun e => e.level = .trace) = [] := by
    refine List.filter_eq_nil_iff.mpr (fun e he => ?_)
    rw [TypeParameter.level_of_mem_warnings he]
    decide
  unfold remarks
  induction parameters with
  | nil => rfl
  | cons v rest ih =>
    rw [List.flatMap_cons, List.filter_append, ih, v.remarks_eq, List.filter_cons,
      if_pos (decide_eq_true v.level_announcement), hwarnings]
    rfl

/-- **What a render notes**, whether on its way or afterwards. Every parameter
has its announcement, a step of the render, followed by its warnings, and these
are all. In the definite form there are no warnings; otherwise there are as many
as bounds in excess of the distinct ones, one for each place whose bound has an
earlier place, in the order of the places. The style is of no consequence, and
further parameters only add what they note themselves. -/
theorem log_renderLogged (parameters : List (TypeParameter TypeRef)) (style : Style) :
    narrate parameters style = renderLogged parameters style
      ∧ (renderLogged parameters style).log
        = parameters.flatMap (fun v => v.announcement :: v.warnings)
      ∧ (∀ v : TypeParameter TypeRef, v.announcement.level = .trace
        ∧ (∀ e ∈ v.warnings, e.level = .warn)
        ∧ (v.isDefinite = true → v.warnings = [])
        ∧ (v.isDefinite = false →
          v.warnings.length = v.bounds.length - v.bounds.toFinset.card
            ∧ v.warnings = (repeatedPlaces v.bounds).map (fun i =>
              ⟨.warn, v.name ++ " is bounded by " ++ (v.bounds.get i).text ++ " more than once"⟩)
            ∧ (repeatedPlaces v.bounds).Pairwise (· < ·)
            ∧ ∀ i, i ∈ repeatedPlaces v.bounds ↔ ∃ j < i, v.bounds.get j = v.bounds.get i))
      ∧ (renderLogged parameters style).log.filter (fun e => e.level = .trace)
        = parameters.map TypeParameter.announcement
      ∧ (∀ e ∈ (renderLogged parameters style).log, e.level ≠ .debug)
      ∧ (∀ other, (narrate parameters other).log = (narrate parameters style).log)
      ∧ ∀ more, (renderLogged (parameters ++ more) style).log
        = (renderLogged parameters style).log ++ (renderLogged more style).log := by
  have hremarks : remarks parameters
      = parameters.flatMap (fun v => v.announcement :: v.warnings) :=
    congrArg parameters.flatMap (funext TypeParameter.remarks_eq)
  refine ⟨narrate_eq parameters style, hremarks, fun v => ⟨v.level_announcement,
    fun e he => v.level_of_mem_warnings he, fun h => if_pos h, fun h =>
      ⟨TypeParameter.length_warnings h, if_neg (ne_true_of_eq_false h),
        pairwise_repeatedPlaces v.bounds, fun i => mem_repeatedPlaces⟩⟩,
    filter_trace_remarks parameters, fun e he => ?_, fun other => ?_,
    fun more => List.flatMap_append⟩
  · have he' : e ∈ parameters.flatMap (fun v => v.announcement :: v.warnings) :=
      hremarks.subst (motive := (e ∈ ·)) he
    obtain ⟨v, -, hv⟩ := List.mem_flatMap.mp he'
    obtain rfl | hwarning := List.mem_cons.mp hv
    · exact v.level_announcement ▸ nofun
    · exact TypeParameter.level_of_mem_warnings hwarning ▸ nofun
  · rw [narrate_eq, narrate_eq]
    rfl

/-- The parameter `T : CharSequence, Number, CharSequence`. -/
def boundTwice : TypeParameter TypeRef :=
  ⟨"T", [.charSequence, .number, .charSequence], .invariant, .plain, false, []⟩

/-- It is warned about for one bound too many, which is no concern of a debugger,
and is not warned about in the definite form. -/
theorem log_renderLogged_boundTwice :
    boundTwice.isDefinite = false ∧ boundTwice.warnings.length = 1
      ∧ (∃ e ∈ (renderLogged [boundTwice] .relative).log, e.level = .warn ∧ e.level ≠ .debug)
      ∧ TypeParameter.isDefinite { boundTwice with nullness := .definite } = true
      ∧ TypeParameter.warnings { boundTwice with nullness := .definite } = [] := by
  obtain ⟨-, hlog, hparameters, -, hdebug, -, -⟩ := log_renderLogged [boundTwice] .relative
  obtain ⟨-, hwarn, -, hplain⟩ := hparameters boundTwice
  obtain ⟨-, -, hdefinite, -⟩ := hparameters { boundTwice with nullness := .definite }
  have hone : boundTwice.warnings.length = 1 := (hplain rfl).1.trans (by decide)
  obtain ⟨e, he⟩ := List.length_eq_one_iff.mp hone
  have hmem : e ∈ boundTwice.warnings := he ▸ List.mem_singleton_self e
  have hlogged : e ∈ (renderLogged [boundTwice] .relative).log := by
    rw [hlog, List.flatMap_singleton]
    exact List.mem_cons_of_mem _ hmem
  exact ⟨rfl, hone, ⟨e, hlogged, hwarn e hmem, hdebug e hlogged⟩, rfl, hdefinite rfl⟩

end Generics

end KotlinTypes
