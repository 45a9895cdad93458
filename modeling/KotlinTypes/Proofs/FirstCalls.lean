import KotlinTypes.Proofs.Remembering

/-!
# The first call counts

A memo table that has been used for a while remembers one value for each key.
Which one is a matter of its whole history: the value of the **first** call for
the key since the table was last cleared, whatever later calls could have made.
The table itself keeps neither the calls nor the clears, so this takes the
invariant of `Memo.Holds`; what is added here is that the first of the calls it
speaks of is the first one in the history (`Memo.lookup_callsSinceClear_iff`).

Everything that can be observed of a table follows (`Memo.first_call_counts`):
when a value is made, what is answered, how many keys are counted, and that a
request for one key is of no consequence to another.
-/

namespace KotlinTypes.Memo

variable {κ υ : Type} {history : List (Request κ υ)} {request : Request κ υ} {key other : κ}
  {make : Logged υ}

/-! ## First calls -/

/-- **The first call for a key since the last clear** is one that could make
`make`: there was such a request, no clear after it, and between it and the
last clear no other request to remember the key. -/
def FirstSinceClear (history : List (Request κ υ)) (key : κ) (make : Logged υ) : Prop :=
  ∃ earlier later, history = earlier ++ .remember key make :: later
    ∧ .clear ∉ later ∧ ¬ AskedSinceClear earlier key

/-- A key with a first call was asked for. -/
theorem FirstSinceClear.asked (h : FirstSinceClear history key make) :
    AskedSinceClear history key := by
  obtain ⟨earlier, later, heq, hclear, -⟩ := h
  exact ⟨earlier, make, later, heq, hclear⟩

/-- One more request that forgets nothing is a first call if it asks for a new
key, and leaves the first calls there were. -/
theorem firstSinceClear_concat (h : request.isClear = false) :
    FirstSinceClear (history ++ [request]) key make
      ↔ FirstSinceClear history key make
        ∨ request = .remember key make ∧ ¬ AskedSinceClear history key := by
  constructor
  · rintro ⟨earlier, later, heq, hclear, hfirst⟩
    obtain ⟨rfl, hlast⟩ | ⟨between, rfl, hhistory⟩ := eq_last_or_before heq
    · exact .inr ⟨hlast, hfirst⟩
    · exact .inl
        ⟨earlier, between, hhistory, fun h => hclear (List.mem_append_left _ h), hfirst⟩
  · rintro (⟨earlier, later, rfl, hclear, hfirst⟩ | ⟨rfl, hnew⟩)
    · exact ⟨earlier, later ++ [request], List.append_assoc .., clear_notMem_concat hclear h,
        hfirst⟩
    · exact ⟨history, [], rfl, List.not_mem_nil, hnew⟩

section Lookup

variable [DecidableEq κ]

instance (history : List (Request κ υ)) (key : κ) : Decidable (AskedSinceClear history key) :=
  decidable_of_iff _ mem_keys_callsSinceClear

/-- **The keys since the last clear**, each of them once. -/
def keysSinceClear (history : List (Request κ υ)) : Finset κ :=
  ((callsSinceClear history).map Prod.fst).toFinset

/-- They are the keys that were asked for since then. -/
theorem mem_keysSinceClear : key ∈ keysSinceClear history ↔ AskedSinceClear history key :=
  List.mem_toFinset.trans mem_keys_callsSinceClear

/-- A key has no first call exactly if it was not asked for. -/
theorem lookup_callsSinceClear_eq_none_iff :
    (callsSinceClear history).lookup key = none ↔ ¬ AskedSinceClear history key := by
  rw [← mem_keys_callsSinceClear, mem_keys_iff, Option.not_isSome_iff_eq_none]

/-- The call of a request answers for its own key alone. -/
theorem lookup_call? {value : υ} :
    request.call?.toList.lookup key = some value
      ↔ ∃ make, request = .remember key make ∧ make.value = value := by
  match request with
  | .get _ | .clear => exact iff_of_false nofun (fun ⟨_, heq, _⟩ => nomatch heq)
  | .remember other make =>
    show List.lookup key [(other, make.value)] = some value ↔ _
    rw [List.lookup_cons, List.lookup_nil]
    by_cases h : key = other
    · subst h
      rw [beq_self_eq_true]
      refine Option.some_inj.trans ⟨fun hvalue => ⟨make, rfl, hvalue⟩, fun ⟨_, heq, hvalue⟩ => ?_⟩
      rw [(Request.remember.inj heq).2]
      exact hvalue
    · rw [beq_eq_false_iff_ne.mpr h]
      exact iff_of_false nofun (fun ⟨_, heq, _⟩ => h (Request.remember.inj heq).1.symm)

/-- **Looking a key up in the calls finds its first call** in the history. -/
theorem lookup_callsSinceClear_iff {value : υ} :
    (callsSinceClear history).lookup key = some value
      ↔ ∃ first, FirstSinceClear history key first ∧ first.value = value := by
  induction history using List.reverseRecOn with
  | nil =>
    exact iff_of_false nofun (fun ⟨_, hfirst, _⟩ => not_askedSinceClear_nil hfirst.asked)
  | append_singleton history request ih =>
    obtain rfl | hnot := request.eq_clear_or
    · rw [callsSinceClear_clear]
      exact iff_of_false nofun (fun ⟨_, hfirst, _⟩ => not_askedSinceClear_clear hfirst.asked)
    · rw [callsSinceClear_concat hnot, List.lookup_append, Option.or_eq_some_iff, ih,
        lookup_callsSinceClear_eq_none_iff, lookup_call?]
      simp only [firstSinceClear_concat hnot, or_and_right, exists_or]
      refine or_congr_right ⟨?_, ?_⟩
      · rintro ⟨hnew, first, heq, hvalue⟩
        exact ⟨first, ⟨heq, hnew⟩, hvalue⟩
      · rintro ⟨first, ⟨heq, hnew⟩, hvalue⟩
        exact ⟨hnew, first, heq, hvalue⟩

end Lookup

/-! ## One request and another key -/

/-- The key a request is about, if it is about one. -/
def Request.key? : Request κ υ → Option κ
  | .get key | .remember key _ => some key
  | .clear => none

section Run

variable [DecidableEq κ]

/-- **A request for one key leaves other keys alone**, in any table. -/
theorem get?_step_of_ne (memo : Memo κ υ) (hkey : request.key? = some key) (hne : other ≠ key) :
    (memo.step request).get? other = memo.get? other := by
  match request with
  | .get _ => rfl
  | .clear => exact nomatch hkey
  | .remember _ make =>
    obtain rfl := Option.some.inj hkey
    show (memo.remember _ make).value.2.get? other = _
    unfold remember
    split
    · rfl
    · show (memo.add _ make.value).get? other = _
      rw [get?_add, if_neg hne, Option.or_none]

/-! ## Whole histories -/

/-- **The first call counts**, after any history of a memo table that starts
from nothing. A request to remember a key makes its value exactly if the key
was not asked for since the last clear, whatever kind of action the making is;
it is answered by what the first call for the key since then could make, be it
this one or an earlier one. Looking a key up gives the same answer, or none if
there was no such call, and changes nothing. As many values are counted as keys
were asked for, and no request for one key changes the answer for another. -/
theorem first_call_counts (history : List (Request κ υ)) :
    (∀ (key : κ) {m : Type → Type} [Monad m] (make : m υ),
      (AskedSinceClear history key → ∃ first, FirstSinceClear history key first
        ∧ (after history).remember key make = pure (first.value, after history))
      ∧ (¬ AskedSinceClear history key → (after history).remember key make
        = make >>= fun value => pure (value, (after history).add key value)))
      ∧ (∀ (key : κ) (make : Logged υ),
        ((after history).remember key make).log
            = (if AskedSinceClear history key then [] else make.log)
          ∧ ∃ first, FirstSinceClear (history ++ [.remember key make]) key first
            ∧ ((after history).remember key make).value
              = (first.value, after (history ++ [.remember key make])))
      ∧ (∀ (key : κ) (value : υ), (after history).get? key = some value
        ↔ ∃ first, FirstSinceClear history key first ∧ first.value = value)
      ∧ (∀ key : κ, (after history).get? key = none ↔ ¬ AskedSinceClear history key)
      ∧ (∀ key : κ, after (history ++ [.get key]) = after history)
      ∧ (∀ key : κ, key ∈ keysSinceClear history ↔ AskedSinceClear history key)
      ∧ (after history).size = (keysSinceClear history).card
      ∧ ((after history).isEmpty = true ↔ (keysSinceClear history).card = 0)
      ∧ ∀ (request : Request κ υ) (key other : κ), request.key? = some key → other ≠ key →
        (after (history ++ [request])).get? other = (after history).get? other := by
  have hholds := holds_after history
  have hasked : ∀ (key : κ) {m : Type → Type} [Monad m] (make : m υ),
      AskedSinceClear history key → ∃ first, FirstSinceClear history key first
        ∧ (after history).remember key make = pure (first.value, after history) := by
    intro key m _ make h
    obtain ⟨value, hvalue, hremember⟩ :=
      hholds.remember_of_mem (mem_keys_callsSinceClear.mpr h) make
    obtain ⟨first, hfirst, rfl⟩ := lookup_callsSinceClear_iff.mp hvalue
    exact ⟨first, hfirst, hremember⟩
  have hnew : ∀ (key : κ) {m : Type → Type} [Monad m] (make : m υ),
      ¬ AskedSinceClear history key → (after history).remember key make
        = make >>= fun value => pure (value, (after history).add key value) :=
    fun key _ _ make h =>
      hholds.remember_of_notMem (fun hmem => h (mem_keys_callsSinceClear.mp hmem)) make
  have hsize : (after history).size = (keysSinceClear history).card := hholds.size_eq
  refine ⟨fun key _ _ make => ⟨hasked key make, hnew key make⟩, fun key make => ?_,
    fun key value => ?_, fun key => ?_, fun key => after_concat history (.get key),
    fun key => mem_keysSinceClear, hsize, hsize ▸ isEmpty_iff _,
    fun request key other hkey hne => ?_⟩
  · have hafter : after (history ++ [.remember key make])
        = ((after history).remember key make).value.2 := after_concat ..
    by_cases h : AskedSinceClear history key
    · obtain ⟨first, hfirst, hremember⟩ := hasked key make h
      rw [if_pos h, hafter, hremember]
      exact ⟨rfl, first, (firstSinceClear_concat rfl).mpr (.inl hfirst), rfl⟩
    · rw [if_neg h, hafter, hnew key make h]
      refine ⟨List.append_nil _, make, (firstSinceClear_concat rfl).mpr (.inr ⟨rfl, h⟩), rfl⟩
  · rw [hholds.get?_eq, lookup_callsSinceClear_iff]
  · rw [hholds.get?_eq, lookup_callsSinceClear_eq_none_iff]
  · rw [after_concat, get?_step_of_ne _ hkey hne]

/-- A clear, a call that makes `"twelve"` for 12, and a later one that could
make `"dozen"`. -/
def twelveAndDozen : List (Request Nat String) :=
  [.clear, .remember 12 ⟨"twelve", []⟩, .remember 12 ⟨"dozen", []⟩]

/-- Twelve it is, and nothing is made for 12 any more. A request for 7 has its
value made and leaves it at that. -/
theorem first_call_counts_twelve :
    AskedSinceClear twelveAndDozen 12
      ∧ (after twelveAndDozen).remember 12 (⟨"XII", [⟨.debug, "made"⟩]⟩ : Logged String)
        = pure ("twelve", after twelveAndDozen)
      ∧ ¬ AskedSinceClear twelveAndDozen 7
      ∧ ((after twelveAndDozen).remember 7 (⟨"VII", [⟨.debug, "made"⟩]⟩ : Logged String)).log
        = [⟨.debug, "made"⟩]
      ∧ (Request.remember 7 (⟨"VII", []⟩ : Logged String)).key? = some 7 ∧ 12 ≠ 7
      ∧ (after (twelveAndDozen ++ [.remember 7 ⟨"VII", []⟩])).get? 12 = some "twelve" := by
  have hasked : AskedSinceClear twelveAndDozen 12 := by decide
  have hnew : ¬ AskedSinceClear twelveAndDozen 7 := by decide
  obtain ⟨hmake, -, hget, -, -, -, -, -, hother⟩ := first_call_counts twelveAndDozen
  have hfirst : FirstSinceClear twelveAndDozen 12 ⟨"twelve", []⟩ :=
    ⟨[.clear], [.remember 12 ⟨"dozen", []⟩], rfl, nofun, by decide⟩
  have htwelve := (hget 12 "twelve").mpr ⟨_, hfirst, rfl⟩
  obtain ⟨first, hfirst', hremember⟩ := (hmake 12 (⟨"XII", [⟨.debug, "made"⟩]⟩ : Logged _)).1 hasked
  -- the first call is known by its value alone, and that is what the table holds
  have hvalue : first.value = "twelve" :=
    Option.some.inj (((hget 12 first.value).mpr ⟨first, hfirst', rfl⟩).symm.trans htwelve)
  refine ⟨hasked, hvalue ▸ hremember, hnew, ?_, rfl, by decide, ?_⟩
  · rw [(hmake 7 _).2 hnew]
    rfl
  · exact (hother (.remember 7 ⟨"VII", []⟩) 7 12 rfl (by decide)).trans htwelve

end Run

end KotlinTypes.Memo
