import Mathlib.Data.Finset.Card
import Mathlib.Data.List.DropRight
import KotlinTypes.Log
import KotlinTypes.Memo

/-!
# What a memo table holds

A memo table is asked for one key after the other, each time with a value that
could be made for it. What the table has to do with all this is short: for each
key it remembers the value of the **first** call, and it counts keys, not calls
(`Memo.Holds`).

Both are kept up by the next call, whether the key is new or not
(`Memo.Holds.add`, `Memo.Holds.again`), and they decide what the call does
(`Memo.Holds.remember_of_notMem`, `Memo.Holds.remember_of_mem`). So a table with
a history of requests behind it holds the calls since it was last cleared, and
nothing else of that history matters (`Memo.holds_after`).
-/

namespace KotlinTypes.Memo

variable {κ υ : Type}

/-- A memo table is empty exactly if its size says so. -/
theorem isEmpty_iff (memo : Memo κ υ) : memo.isEmpty = true ↔ memo.size = 0 :=
  List.isEmpty_iff_length_eq_zero

/-! ## Calls -/

section Calls

variable [DecidableEq κ]

/-- **A memo table holds the calls so far**, given as pairs of the key and the
value that could be made for it, in order. Looking a key up in such a list
finds its first call. -/
structure Holds (memo : Memo κ υ) (calls : List (κ × υ)) : Prop where
  /-- Each key has the value of its first call. -/
  get?_eq (key : κ) : memo.get? key = calls.lookup key
  /-- There are as many values as keys that were asked for. -/
  size_eq : memo.size = (calls.map Prod.fst).toFinset.card

/-- A key was asked for exactly if it has a first call. -/
theorem mem_keys_iff {calls : List (κ × υ)} {key : κ} :
    key ∈ calls.map Prod.fst ↔ (calls.lookup key).isSome = true := by
  rw [List.lookup_isSome_iff, List.mem_map]
  exact exists_congr (fun call => and_congr_right (fun _ => eq_comm.trans beq_iff_eq.symm))

/-- A first call is a call. -/
theorem mem_of_lookup {calls : List (κ × υ)} {key : κ} {value : υ}
    (h : calls.lookup key = some value) : (key, value) ∈ calls := by
  obtain ⟨before, after, rfl, -⟩ := List.lookup_eq_some_iff.mp h
  exact List.mem_append_right before List.mem_cons_self

/-- One more call is for one more key, or for one of the keys so far. -/
theorem toFinset_keys_concat (calls : List (κ × υ)) (key : κ) (value : υ) :
    ((calls ++ [(key, value)]).map Prod.fst).toFinset
      = insert key (calls.map Prod.fst).toFinset := by
  rw [List.map_append, List.toFinset_append, Finset.union_comm]
  rfl

/-- Without a call nothing is held. -/
theorem holds_empty : (empty : Memo κ υ).Holds [] where
  get?_eq _ := rfl
  size_eq := rfl

namespace Holds

variable {memo : Memo κ υ} {calls : List (κ × υ)} {key : κ}

/-- **A key that was asked for is answered from memory**, with the value of its
first call and without making anything. -/
theorem remember_of_mem (h : memo.Holds calls) (hkey : key ∈ calls.map Prod.fst)
    {m : Type → Type} [Monad m] (make : m υ) :
    ∃ value, calls.lookup key = some value ∧ memo.remember key make = pure (value, memo) := by
  obtain ⟨value, hvalue⟩ := Option.isSome_iff_exists.mp (mem_keys_iff.mp hkey)
  refine ⟨value, hvalue, ?_⟩
  unfold remember
  rw [h.get?_eq, hvalue]

/-- **A new key has its value made** and added. -/
theorem remember_of_notMem (h : memo.Holds calls) (hkey : key ∉ calls.map Prod.fst)
    {m : Type → Type} [Monad m] (make : m υ) :
    memo.remember key make = make >>= fun value => pure (value, memo.add key value) := by
  have hnone : calls.lookup key = none :=
    Option.not_isSome_iff_eq_none.mp (fun hsome => hkey (mem_keys_iff.mpr hsome))
  unfold remember
  rw [h.get?_eq, hnone]

/-- **A further call for a key** changes nothing. -/
theorem again (h : memo.Holds calls) (hkey : key ∈ calls.map Prod.fst) (value : υ) :
    memo.Holds (calls ++ [(key, value)]) where
  get?_eq other := by
    show _ = (Memo.add ⟨calls⟩ key value).get? other
    rw [get?_add, h.get?_eq]
    by_cases hother : other = key
    · exact (Option.or_of_isSome (hother ▸ mem_keys_iff.mp hkey)).symm
    · rw [if_neg hother, Option.or_none]
      rfl
  size_eq := by
    rw [h.size_eq, toFinset_keys_concat, Finset.insert_eq_of_mem (List.mem_toFinset.mpr hkey)]

/-- **The first call for a key** adds it. -/
theorem add (h : memo.Holds calls) (hkey : key ∉ calls.map Prod.fst) (value : υ) :
    (memo.add key value).Holds (calls ++ [(key, value)]) where
  get?_eq other := by
    show _ = (Memo.add ⟨calls⟩ key value).get? other
    rw [get?_add, get?_add, h.get?_eq]
    rfl
  size_eq := by
    rw [size_add, h.size_eq, toFinset_keys_concat,
      Finset.card_insert_of_notMem (fun hmem => hkey (List.mem_toFinset.mp hmem))]

end Holds

end Calls

/-! ## Histories -/

/-- **One request** to a memo table. -/
inductive Request (κ υ : Type) where
  /-- To look a key up. -/
  | get (key : κ)
  /-- To remember a key, with a value that may be made for it. -/
  | remember (key : κ) (make : Logged υ)
  /-- To forget everything. -/
  | clear

/-- Whether a request makes the table forget. -/
def Request.isClear : Request κ υ → Bool
  | .clear => true
  | .get _ | .remember .. => false

/-- A request is to forget, or it is not. -/
theorem Request.eq_clear_or (request : Request κ υ) :
    request = .clear ∨ request.isClear = false := by
  match request with
  | .get _ | .remember .. => exact .inr rfl
  | .clear => exact .inl rfl

/-- The call a request makes, as a key with the value that could be made. -/
def Request.call? : Request κ υ → Option (κ × υ)
  | .remember key make => some (key, make.value)
  | .get _ | .clear => none

/-- **The calls since the last clear**, oldest first. -/
def callsSinceClear (history : List (Request κ υ)) : List (κ × υ) :=
  (history.rtakeWhile (fun r => !r.isClear)).filterMap Request.call?

/-- **A key was asked for since the last clear**: there was a request to
remember it, and no clear after that. -/
def AskedSinceClear (history : List (Request κ υ)) (key : κ) : Prop :=
  ∃ earlier make later, history = earlier ++ .remember key make :: later ∧ .clear ∉ later

section Histories

variable {history : List (Request κ υ)} {key : κ}

theorem callsSinceClear_concat {request : Request κ υ} (h : request.isClear = false) :
    callsSinceClear (history ++ [request]) = callsSinceClear history ++ request.call?.toList := by
  unfold callsSinceClear
  rw [List.rtakeWhile_concat_pos _ _ _ (by rw [h, Bool.not_false]), List.filterMap_append]
  match request with
  | .get _ | .remember .. => rfl

theorem callsSinceClear_clear : callsSinceClear (history ++ [.clear]) = [] := by
  unfold callsSinceClear
  rw [List.rtakeWhile_concat_neg _ _ _ Bool.false_ne_true]
  rfl

/-- A call since the last clear was requested. -/
theorem exists_of_mem_callsSinceClear {call : κ × υ} (h : call ∈ callsSinceClear history) :
    ∃ request ∈ history, request.call? = some call := by
  obtain ⟨request, hrequest, hcall⟩ := List.mem_filterMap.mp h
  exact ⟨request, (List.rtakeWhile_suffix _ _).subset hrequest, hcall⟩

/-- **A request of a longer history** is the last one, or it was there before. -/
theorem eq_last_or_before {earlier later : List (Request κ υ)} {request sought : Request κ υ}
    (h : history ++ [request] = earlier ++ sought :: later) :
    history = earlier ∧ request = sought
      ∨ ∃ between, later = between ++ [request] ∧ history = earlier ++ sought :: between := by
  obtain rfl | ⟨between, last, rfl⟩ := later.eq_nil_or_concat'
  · obtain ⟨hhistory, hlast⟩ := List.append_inj' h rfl
    exact .inl ⟨hhistory, List.singleton_inj.mp hlast⟩
  · have heq : history ++ [request] = (earlier ++ sought :: between) ++ [last] :=
      h.trans (List.append_assoc earlier (sought :: between) [last]).symm
    obtain ⟨hhistory, hlast⟩ := List.append_inj' heq rfl
    exact .inr ⟨between, by rw [hlast], hhistory⟩

/-- A request that forgets nothing is no clear after others. -/
theorem clear_notMem_concat {later : List (Request κ υ)} {request : Request κ υ}
    (hlater : .clear ∉ later) (h : request.isClear = false) : .clear ∉ later ++ [request] := by
  intro hmem
  obtain hmem | hmem := List.mem_append.mp hmem
  · exact hlater hmem
  · obtain rfl := List.mem_singleton.mp hmem
    exact nomatch h

/-- One more request that forgets nothing may ask for one more key. -/
theorem askedSinceClear_concat {request : Request κ υ} (h : request.isClear = false) :
    AskedSinceClear (history ++ [request]) key
      ↔ AskedSinceClear history key ∨ ∃ make, request = .remember key make := by
  constructor
  · rintro ⟨earlier, make, later, heq, hclear⟩
    obtain ⟨-, hlast⟩ | ⟨between, rfl, hhistory⟩ := eq_last_or_before heq
    · exact .inr ⟨make, hlast⟩
    · exact .inl ⟨earlier, make, between, hhistory, fun h => hclear (List.mem_append_left _ h)⟩
  · rintro (⟨earlier, make, later, rfl, hclear⟩ | ⟨make, rfl⟩)
    · exact ⟨earlier, make, later ++ [request], List.append_assoc .., clear_notMem_concat hclear h⟩
    · exact ⟨history, make, [], rfl, List.not_mem_nil⟩

/-- After a clear nothing was asked for. -/
theorem not_askedSinceClear_clear : ¬ AskedSinceClear (history ++ [.clear]) key := by
  rintro ⟨earlier, make, later, heq, hclear⟩
  obtain ⟨-, hlast⟩ | ⟨between, rfl, -⟩ := eq_last_or_before heq
  · exact nomatch hlast
  · exact hclear (List.mem_append_right between (List.mem_singleton_self _))

/-- Before any request nothing was asked for. -/
theorem not_askedSinceClear_nil : ¬ AskedSinceClear ([] : List (Request κ υ)) key := by
  rintro ⟨earlier, make, later, heq, -⟩
  exact List.append_ne_nil_of_right_ne_nil earlier (List.cons_ne_nil _ later) heq.symm

/-- The key of the call that a request makes. -/
theorem mem_keys_call? {request : Request κ υ} :
    key ∈ request.call?.toList.map Prod.fst ↔ ∃ make, request = .remember key make := by
  match request with
  | .get _ | .clear => exact iff_of_false List.not_mem_nil (fun ⟨_, heq⟩ => nomatch heq)
  | .remember other make =>
    refine List.mem_singleton.trans ⟨fun heq => ⟨make, heq ▸ rfl⟩, fun ⟨_, heq⟩ => ?_⟩
    exact (Request.remember.inj heq).1.symm

/-- **The keys of the calls since the last clear** are those asked for since
then. -/
theorem mem_keys_callsSinceClear :
    key ∈ (callsSinceClear history).map Prod.fst ↔ AskedSinceClear history key := by
  induction history using List.reverseRecOn with
  | nil => exact iff_of_false List.not_mem_nil not_askedSinceClear_nil
  | append_singleton history request ih =>
    obtain rfl | hnot := request.eq_clear_or
    · rw [callsSinceClear_clear]
      exact iff_of_false List.not_mem_nil not_askedSinceClear_clear
    · rw [callsSinceClear_concat hnot, askedSinceClear_concat hnot, List.map_append,
        List.mem_append, ih, mem_keys_call?]

end Histories

section Run

variable [DecidableEq κ]

/-- The memo table after one more request. -/
def step (memo : Memo κ υ) : Request κ υ → Memo κ υ
  | .get _ => memo
  | .remember key make => (memo.remember key make).value.2
  | .clear => .empty

/-- **The memo table after a history** that starts from nothing. -/
def after (history : List (Request κ υ)) : Memo κ υ :=
  history.foldl step .empty

theorem after_concat (history : List (Request κ υ)) (request : Request κ υ) :
    after (history ++ [request]) = (after history).step request :=
  List.foldl_concat ..

/-- A request makes the table hold its call besides, if it makes one. -/
theorem Holds.step {memo : Memo κ υ} {calls : List (κ × υ)} (h : memo.Holds calls)
    {request : Request κ υ} (hrequest : request.isClear = false) :
    (memo.step request).Holds (calls ++ request.call?.toList) := by
  match request with
  | .get key =>
    show memo.Holds (calls ++ [])
    rwa [List.append_nil]
  | .remember key make =>
    show Holds (memo.remember key make).value.2 (calls ++ [(key, make.value)])
    by_cases hkey : key ∈ calls.map Prod.fst
    · obtain ⟨value, -, hremember⟩ := h.remember_of_mem hkey make
      rw [hremember]
      exact h.again hkey make.value
    · rw [h.remember_of_notMem hkey make]
      exact h.add hkey make.value
  | .clear => exact nomatch hrequest

/-- **After any history** the table holds the calls since the last clear. -/
theorem holds_after (history : List (Request κ υ)) :
    (after history).Holds (callsSinceClear history) := by
  induction history using List.reverseRecOn with
  | nil => exact holds_empty
  | append_singleton history request ih =>
    rw [after_concat]
    obtain rfl | hnot := request.eq_clear_or
    · rw [callsSinceClear_clear]
      exact holds_empty
    · rw [callsSinceClear_concat hnot]
      exact ih.step hnot

end Run

end KotlinTypes.Memo
