import KotlinTypes.Generics.Memo
import KotlinTypes.Proofs.Ledger
import KotlinTypes.Proofs.Remembering

/-!
# A history of remembered renders

A memo table of renders is asked to render, over and over, and now and then it
is cleared. Nobody who asks can tell it from the renderer itself, except by the
log: the answer is always what a render gives, and a render is done, and noted,
once for each input since the table was last cleared
(`Generics.RenderMemo.transparent`).

A request to render is a request to remember, with a value that depends on the
key alone (`Generics.Request.toMemo`). So a history of renders is a history of
a memo table like any other, and it does not matter which call for a key was
the first: after any history every remembered value is the render of its key.

Keys are compared by structure, and parameters settle their bounds when they
are built. So parameters with different histories are one key as soon as their
ledgers settle to the same.
-/

namespace KotlinTypes.Generics

/-! ## Histories -/

/-- **One request** to a memo table of renders. -/
inductive Request where
  /-- To render parameters in a style. -/
  | render (parameters : List (TypeParameter TypeRef)) (style : Style)
  /-- To forget all renders. -/
  | clear

/-- The same request to a memo table of any kind. -/
def Request.toMemo : Request → Memo.Request (List (TypeParameter TypeRef) × Style) Generics
  | .render parameters style => .remember (parameters, style) (renderAnnounced parameters style)
  | .clear => .clear

/-- **The inputs since the last clear**, oldest first and with repetitions. -/
def inputsSinceClear (history : List Request) : List (List (TypeParameter TypeRef) × Style) :=
  (Memo.callsSinceClear (history.map Request.toMemo)).map Prod.fst

/-- **An input was asked for since the last clear**: there was a request to
render it, and no clear after that. -/
def AskedSinceClear (history : List Request) (parameters : List (TypeParameter TypeRef))
    (style : Style) : Prop :=
  ∃ earlier later, history = earlier ++ .render parameters style :: later ∧ .clear ∉ later

/-- A clear is a clear of a memo table, and so is nothing else. -/
theorem Request.clear_mem_map_toMemo {history : List Request} :
    .clear ∈ history.map toMemo ↔ .clear ∈ history := by
  refine List.mem_map.trans ⟨?_, fun h => ⟨_, h, rfl⟩⟩
  rintro ⟨request, hrequest, heq⟩
  match request with
  | .render _ _ => exact nomatch heq
  | .clear => exact hrequest

/-- **The inputs since the last clear** are those that were asked for since
then. -/
theorem mem_inputsSinceClear {history : List Request} {parameters : List (TypeParameter TypeRef)}
    {style : Style} :
    (parameters, style) ∈ inputsSinceClear history ↔ AskedSinceClear history parameters style := by
  refine Memo.mem_keys_callsSinceClear.trans ⟨?_, ?_⟩
  · rintro ⟨earlier', make, later', heq, hclear⟩
    obtain ⟨earlier, rest, rfl, rfl, hrest⟩ := List.map_eq_append_iff.mp heq
    obtain ⟨request, later, rfl, hrequest, rfl⟩ := List.map_eq_cons_iff.mp hrest
    refine ⟨earlier, later, ?_, fun h => hclear (Request.clear_mem_map_toMemo.mpr h)⟩
    match request with
    | .render _ _ => cases hrequest; rfl
    | .clear => exact nomatch hrequest
  · rintro ⟨earlier, later, rfl, hclear⟩
    exact ⟨earlier.map Request.toMemo, _, later.map Request.toMemo, List.map_append,
      fun h => hclear (Request.clear_mem_map_toMemo.mp h)⟩

instance (history : List Request) (parameters : List (TypeParameter TypeRef)) (style : Style) :
    Decidable (AskedSinceClear history parameters style) :=
  decidable_of_iff _ mem_inputsSinceClear

namespace RenderMemo

/-- **The memo table after a history** that starts from nothing. -/
def after (history : List Request) : RenderMemo :=
  Memo.after (history.map Request.toMemo)

/-- A request to render leaves the table that a remembered render leaves. -/
theorem after_render (history : List Request) (parameters : List (TypeParameter TypeRef))
    (style : Style) :
    after (history ++ [.render parameters style])
      = (remembered (after history) parameters style).value.2 := by
  unfold after
  rw [List.map_append]
  exact Memo.after_concat _ _

/-- **After any history** the table holds the calls since the last clear. -/
theorem holds_after (history : List Request) :
    (after history).Holds (Memo.callsSinceClear (history.map Request.toMemo)) :=
  Memo.holds_after (history.map Request.toMemo)

/-- Every call for a key is for its render. -/
theorem render_of_mem {history : List Request}
    {call : (List (TypeParameter TypeRef) × Style) × Generics}
    (h : call ∈ Memo.callsSinceClear (history.map Request.toMemo)) :
    call.2 = render call.1.1 call.1.2 := by
  obtain ⟨request, hrequest, hcall⟩ := Memo.exists_of_mem_callsSinceClear h
  obtain ⟨original, -, rfl⟩ := List.mem_map.mp hrequest
  match original with
  | .render parameters style =>
    obtain rfl := Option.some.inj hcall
    rfl
  | .clear => exact nomatch hcall

section

variable {history : List Request} {parameters : List (TypeParameter TypeRef)} {style : Style}

/-- **An input that was asked for** is answered by its render, and nothing is
noted. -/
theorem remembered_of_asked
    (h : AskedSinceClear history parameters style) :
    remembered (after history) parameters style
      = ⟨(render parameters style, after history), []⟩ := by
  obtain ⟨value, hvalue, hremember⟩ := (holds_after history).remember_of_mem
    (mem_inputsSinceClear.mpr h) (renderAnnounced parameters style)
  obtain rfl : value = render parameters style := render_of_mem (Memo.mem_of_lookup hvalue)
  exact hremember

/-- **An input that is new** is rendered, and the render notes that it is
done. -/
theorem remembered_of_not_asked
    (h : ¬ AskedSinceClear history parameters style) :
    remembered (after history) parameters style
      = ⟨(render parameters style,
          (after history).add (parameters, style) (render parameters style)),
        (renderAnnounced parameters style).log⟩ := by
  have hkey := fun hmem => h (mem_inputsSinceClear.mp hmem)
  refine ((holds_after history).remember_of_notMem hkey _).trans ?_
  show Logged.mk _ ((renderAnnounced parameters style).log ++ []) = _
  rw [List.append_nil]
  rfl

end

/-- Parameters are one input when their ledgers settle to the same. -/
theorem map_snd_eq_of_settled {rows rows' : List (Ledger × TypeParameter TypeRef)}
    (h : ∀ row ∈ rows ++ rows', Ledger.Tracks row.1 row.2)
    (hsettled : rows.map (fun row => row.1.settled) = rows'.map (fun row => row.1.settled)) :
    rows.map Prod.snd = rows'.map Prod.snd :=
  calc rows.map Prod.snd
    _ = rows.map (fun row => row.1.settled) :=
      List.map_congr_left (fun row hrow => (h row (List.mem_append_left _ hrow)).eq_settled)
    _ = rows'.map (fun row => row.1.settled) := hsettled
    _ = rows'.map Prod.snd :=
      List.map_congr_left (fun row hrow => (h row (List.mem_append_right _ hrow)).eq_settled.symm)

/-- **A memo table of renders cannot be told from the renderer** by its answers,
whatever it was asked before. It renders, and notes that it does, exactly for
inputs that were not asked for since the last clear; it counts the distinct
inputs since then; and parameters that were built in different ways but settle
to the same share one entry. -/
theorem transparent (history : List Request) :
    (∀ (parameters : List (TypeParameter TypeRef)) (style : Style),
      (remembered (after history) parameters style).value.1 = render parameters style
        ∧ (remembered (after history) parameters style).log
          = if AskedSinceClear history parameters style then []
            else ⟨.debug, "Rendering clause for " ++ Nat.repr parameters.length
                ++ " type variable(s)"⟩ :: (renderLogged parameters style).log)
      ∧ (after history).size = (inputsSinceClear history).toFinset.card
      ∧ ((after history).isEmpty = true ↔ (inputsSinceClear history).toFinset.card = 0)
      ∧ ∀ (rows rows' : List (Ledger × TypeParameter TypeRef)) (style : Style),
        (∀ row ∈ rows ++ rows', Ledger.Tracks row.1 row.2) →
        rows.map (fun row => row.1.settled) = rows'.map (fun row => row.1.settled) →
        (remembered (after (history ++ [.render (rows.map Prod.snd) style]))
            (rows'.map Prod.snd) style).log = []
          ∧ after (history ++ [.render (rows.map Prod.snd) style]
              ++ [.render (rows'.map Prod.snd) style])
            = after (history ++ [.render (rows.map Prod.snd) style]) := by
  have hsize : (after history).size = (inputsSinceClear history).toFinset.card :=
    (holds_after history).size_eq
  refine ⟨fun parameters style => ?_, hsize, hsize ▸ Memo.isEmpty_iff _,
    fun rows rows' style htracks hsettled => ?_⟩
  · by_cases h : AskedSinceClear history parameters style
    · rw [if_pos h, remembered_of_asked h]
      exact ⟨rfl, rfl⟩
    · rw [if_neg h, remembered_of_not_asked h]
      exact ⟨rfl, rfl⟩
  · have hasked : AskedSinceClear (history ++ [Request.render (rows'.map Prod.snd) style])
        (rows'.map Prod.snd) style := ⟨history, [], rfl, List.not_mem_nil⟩
    rw [map_snd_eq_of_settled htracks hsettled, after_render (history ++ [_]),
      remembered_of_asked hasked]
    exact ⟨rfl, rfl⟩

/-- `Serializable`, from a package that has to be imported. -/
def serializable : TypeRef :=
  .ofClass (.topLevel "java.io" "Serializable")

/-- A parameter bounded by `Any?` and `Serializable` is rendered, and one
bounded by `Serializable` alone is remembered. -/
theorem transparent_serializable :
    Ledger.Tracks (.start "T" .invariant [.nullableAny, serializable])
        (.ofBounds "T" [.nullableAny, serializable])
      ∧ Ledger.Tracks (.start "T" .invariant [serializable]) (.ofBounds "T" [serializable])
      ∧ (remembered (after [.render [.ofBounds "T" [.nullableAny, serializable]] .standard])
          [.ofBounds "T" [serializable]] .standard).value.1 = ⟨"<T : java.io.Serializable>", ""⟩
      ∧ (remembered (after [.render [.ofBounds "T" [.nullableAny, serializable]] .standard])
          [.ofBounds "T" [serializable]] .standard).log = []
      ∧ (after [.render [.ofBounds "T" [.nullableAny, serializable]] .standard]).size = 1 := by
  have hfirst : Ledger.Tracks (.start "T" .invariant [.nullableAny, serializable])
      (.ofBounds "T" [.nullableAny, serializable]) :=
    .made (c := .ofBounds "T" [.nullableAny, serializable]) rfl rfl
  have hsecond : Ledger.Tracks (.start "T" .invariant [serializable])
      (.ofBounds "T" [serializable]) := .made (c := .ofBounds "T" [serializable]) rfl rfl
  have htracks : ∀ row ∈ [(Ledger.start "T" .invariant [.nullableAny, serializable],
        TypeParameter.ofBounds "T" [.nullableAny, serializable])]
      ++ [(Ledger.start "T" .invariant [serializable], TypeParameter.ofBounds "T" [serializable])],
      Ledger.Tracks row.1 row.2 :=
    List.forall_mem_cons.mpr ⟨hfirst, List.forall_mem_singleton.mpr hsecond⟩
  obtain ⟨hanswer, hsize, -, -⟩ :=
    transparent [.render [.ofBounds "T" [.nullableAny, serializable]] .standard]
  obtain ⟨-, -, -, hshared⟩ := transparent []
  exact ⟨hfirst, hsecond, (hanswer _ _).1.trans (by decide),
    (hshared _ _ .standard htracks (by decide)).1, hsize.trans (by decide)⟩

end RenderMemo

end KotlinTypes.Generics
