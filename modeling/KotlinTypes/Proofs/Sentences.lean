import Mathlib.Data.List.GetD
import Mathlib.Data.List.Infix
import KotlinTypes.Proofs.Keywords
import KotlinTypes.Proofs.Ledger
import KotlinTypes.Proofs.Quoting

/-!
# What the sentence of a refusal tells

The names in the sentence of a refusal are put there as they are given. A name
may hold backticks, the sentence of another refusal or the better part of one,
so no place in a sentence can be found by looking for the words that should
stand there. From its end a sentence can be read. What follows the last name is
fixed for each cause, and no two causes have sentences of which one could end
like the other (`Rejection.pairwise_closings`). Once the cause is known, so are
the words before the names, and with one name in the sentence that is the name.

Two causes put two names into their sentences, and there it takes more. A
modifier is written without a backtick, so it ends at the first one. A bound
ends at the last one only if it holds none itself. Any text may be given as the
bound of a refusal, but the two forms of the top type are all that a copy of a
parameter ever names there.

The diagnostic quotes the sentence and tells no less.
-/

namespace KotlinTypes

/-! ## Backticks -/

/-- A text may be cut at its first occurrence of a character in one way. -/
theorem append_cons_inj_of_notMem {c : Char} {x x' z z' : List Char} (hx : c ∉ x) (hx' : c ∉ x')
    (h : x ++ c :: z = x' ++ c :: z') : x = x' ∧ z = z' := by
  have hsplit := congrArg (List.splitOn c) h
  rw [List.splitOn_append_cons_self_of_not_mem hx, List.splitOn_append_cons_self_of_not_mem hx']
    at hsplit
  obtain rfl := (List.cons.inj hsplit).1
  exact ⟨rfl, (List.cons.inj (List.append_cancel_left h)).2⟩

/-! Of two texts with a separator between them, the first one follows a
backtick. -/

section Separated

variable {a a' b b' separator : String} {rest : List Char}

/-- **The first text ends at the first backtick**, if it holds none. -/
theorem append_separator_inj_left (hseparator : separator.toList = '\x60' :: rest)
    (ha : '\x60' ∉ a.toList) (ha' : '\x60' ∉ a'.toList)
    (h : "`" ++ a ++ separator ++ b = "`" ++ a' ++ separator ++ b') : a = a' ∧ b = b' := by
  have hchars := congrArg String.toList h
  simp only [String.toList_append, hseparator, List.append_assoc, List.append_right_inj] at hchars
  obtain ⟨hleft, hright⟩ := append_cons_inj_of_notMem ha ha' hchars
  exact ⟨String.toList_inj.mp hleft, String.toList_inj.mp (List.append_cancel_left hright)⟩

/-- **The second text starts after the last backtick**, if it holds none. -/
theorem append_separator_inj_right (hseparator : separator.toList = rest ++ ['\x60'])
    (hb : '\x60' ∉ b.toList) (hb' : '\x60' ∉ b'.toList)
    (h : "`" ++ a ++ separator ++ b = "`" ++ a' ++ separator ++ b') : a = a' ∧ b = b' := by
  have hchars := congrArg (fun s => s.toList.reverse) h
  simp only [String.toList_append, hseparator, List.reverse_append] at hchars
  obtain ⟨hright, -⟩ := append_cons_inj_of_notMem (fun hmem => hb (List.mem_reverse.mp hmem))
    (fun hmem => hb' (List.mem_reverse.mp hmem)) hchars
  obtain rfl := String.toList_inj.mp (List.reverse_inj.mp hright)
  have hleft := (String.append_left_inj _).mp ((String.append_left_inj _).mp h)
  exact ⟨(String.append_right_inj _).mp hleft, rfl⟩

end Separated

/-- A keyword holds no backtick. -/
theorem Modifier.backtick_notMem_keyword (m : Modifier) : '\x60' ∉ m.keyword.toList := by
  cases m <;> decide

/-! ## The bound -/

/-- The two forms of the top type, written out. -/
theorem TypeRef.text_of_isTop {t : TypeRef} (h : t.isTop = true) :
    t.text = "Any" ∨ t.text = "Any?" := by
  obtain rfl | rfl := (TypeRef.isTop_iff t).mp h
  · exact .inl rfl
  · exact .inr rfl

namespace TypeParameter

variable {v : TypeParameter TypeRef} {name bound : String}

/-- The definite form names a top type where it is refused for one. -/
theorem bound_of_definite (h : v.definite = .error (.definiteOfTop name bound)) :
    bound = "Any" ∨ bound = "Any?" := by
  unfold TypeParameter.definite at h
  split at h
  · cases h
  · cases h
  · split at h
    · split_ifs at h with htop
      obtain ⟨-, rfl⟩ := Rejection.definiteOfTop.inj (Except.error.inj h)
      exact TypeRef.text_of_isTop htop
    · cases h

/-- Other bounds are never refused for a top type. -/
theorem setBounds_ne_definiteOfTop (bounds : List TypeRef) :
    v.setBounds bounds ≠ .error (.definiteOfTop name bound) := by
  intro h
  unfold TypeParameter.setBounds at h
  split_ifs at h
  cases h

/-- Another nullability is never refused for a top type. -/
theorem setNullable_ne_definiteOfTop (nullable : Bool) :
    v.setNullable nullable ≠ .error (.definiteOfTop name bound) := by
  intro h
  unfold TypeParameter.setNullable at h
  split_ifs at h <;> cases h

/-- **The bound that a refused change names** is a form of the top type. -/
theorem bound_of_applyTo {c : Change} (h : v.applyTo c = .error (.definiteOfTop name bound)) :
    bound = "Any" ∨ bound = "Any?" := by
  cases c with
  | definite => exact bound_of_definite h
  | setNullable nullable => exact absurd h (setNullable_ne_definiteOfTop nullable)
  | setBounds bounds => exact absurd h (setBounds_ne_definiteOfTop bounds)
  | addBounds bounds => exact absurd h (setBounds_ne_definiteOfTop _)
  | setReified reified => cases h
  | annotate annotations => cases h

end TypeParameter

namespace Rejection

variable {r s : Rejection}

/-! ## The cause -/

/-- **How the sentences end**, from the last name on, in the order of the
numbers of their causes. The sentences on the dynamic type hold no name. -/
def closings : List String :=
  ["`, only `in` or `out` can.",
    "` doesn't look like a class name.",
    "` must be parameterized with at least one type.",
    "` is a projection and cannot be nullable.",
    "`dynamic` cannot be nullable.",
    "`dynamic` cannot be annotated.",
    " & Any` is definitely non-nullable and cannot be made nullable.",
    " & Any` is already definitely non-nullable.",
    " & Any` cannot be changed.",
    " & Any` cannot be made definitely non-nullable twice.",
    "?` is nullable and cannot be made definitely non-nullable.",
    "`, so there is nothing to intersect with."]

/-- How the sentence of a refusal ends. -/
def closing (r : Rejection) : String :=
  closings.getD (r.number - 1) ""

/-- **How the sentence of a refusal starts**, up to its last name and with it. -/
def opening : Rejection → String
  | .notAVariance name modifier =>
      "`" ++ modifier.keyword ++ "` cannot be used as the variance of `" ++ name
  | .nullableDynamic | .annotatedDynamic => ""
  | .boundsOfDefinite name => "The bounds of `" ++ name
  | .definiteOfTop name bound => "`" ++ name ++ "` is only bounded by `" ++ bound
  | .notAClassName name | .noTypeArguments name | .nullableProjection name
  | .nullableDefinite name | .nonNullDefinite name | .alreadyDefinite name
  | .definiteOfNullable name => "`" ++ name

/-- The sentence of a refusal is made of the two. -/
theorem message_eq (r : Rejection) : r.message = r.opening ++ r.closing := by
  cases r <;> rfl

/-- **No sentence ends like the sentence of another cause.** -/
theorem pairwise_closings :
    closings.Pairwise (fun a b => ¬ a.toList <:+ b.toList ∧ ¬ b.toList <:+ a.toList) := by
  decide +kernel

/-- The numbers of causes are those of the ends. -/
theorem number_mem (r : Rejection) : 0 < r.number ∧ r.number ≤ closings.length := by
  cases r <;> exact of_decide_eq_true rfl

/-- The end of a sentence is not that of one whose cause has another number. -/
theorem not_isSuffix_closing (h : r.number < s.number) :
    ¬ r.closing.toList <:+ s.closing.toList ∧ ¬ s.closing.toList <:+ r.closing.toList := by
  have hr := r.number_mem
  have hs := s.number_mem
  have hclosing : ∀ t : Rejection, ∀ ht : t.number - 1 < closings.length,
      t.closing = closings[t.number - 1] := fun t ht => List.getD_eq_getElem closings "" ht
  rw [hclosing r (by omega), hclosing s (by omega)]
  exact List.pairwise_iff_getElem.mp pairwise_closings _ _ _ _ (by omega)

/-- **The sentence tells the cause**, whatever the names in it. -/
theorem number_eq_of_message_eq (h : r.message = s.message) : r.number = s.number := by
  have hends : ∀ t : Rejection, t.closing.toList <:+ t.message.toList := fun t =>
    ⟨t.opening.toList, by rw [message_eq, String.toList_append]⟩
  have hsuffix := List.suffix_or_suffix_of_suffix (hends r) (h ▸ hends s)
  by_contra hne
  obtain hlt | hlt := Nat.lt_or_gt_of_ne hne
  · exact hsuffix.elim (not_isSuffix_closing hlt).1 (not_isSuffix_closing hlt).2
  · exact hsuffix.elim (not_isSuffix_closing hlt).2 (not_isSuffix_closing hlt).1

/-! ## The names -/

/-- **A refusal that holds no backtick in a bound.** Only one cause names a
bound. -/
def BoundUnmarked (r : Rejection) : Prop :=
  ∀ name bound, r = .definiteOfTop name bound → '\x60' ∉ bound.toList

/-- **The start of the sentence tells the names**, once the cause is known. -/
theorem eq_of_opening_eq (hr : r.BoundUnmarked) (hs : s.BoundUnmarked)
    (hnumber : r.number = s.number) (h : r.opening = s.opening) : r = s := by
  -- two causes with one number are the same cause
  cases r <;> cases s <;> cases hnumber
  case notAVariance.notAVariance name modifier name' modifier' =>
    obtain ⟨hkeyword, rfl⟩ := append_separator_inj_left rfl modifier.backtick_notMem_keyword
      modifier'.backtick_notMem_keyword h
    rw [Modifier.keyword_injective hkeyword]
  case definiteOfTop.definiteOfTop name bound name' bound' =>
    have hseparator : "` is only bounded by `".toList
        = "` is only bounded by ".toList ++ ['\x60'] := rfl
    obtain ⟨rfl, rfl⟩ := append_separator_inj_right hseparator (hr _ _ rfl) (hs _ _ rfl) h
    rfl
  case nullableDynamic.nullableDynamic => rfl
  case annotatedDynamic.annotatedDynamic => rfl
  -- all other sentences have one name, and it comes last
  all_goals exact congrArg _ ((String.append_right_inj _).mp h)

/-- **The sentence tells the refusal.** -/
theorem eq_of_message_eq (hr : r.BoundUnmarked) (hs : s.BoundUnmarked)
    (h : r.message = s.message) : r = s := by
  have hnumber := number_eq_of_message_eq h
  have hclosing : r.closing = s.closing := congrArg (fun n => closings.getD (n - 1) "") hnumber
  rw [message_eq, message_eq, hclosing] at h
  exact eq_of_opening_eq hr hs hnumber ((String.append_left_inj _).mp h)

/-- The diagnostic tells the sentence. -/
theorem message_eq_of_diagnostic_eq (h : r.diagnostic = s.diagnostic) : r.message = s.message := by
  unfold diagnostic at h
  simp only [String.append_assoc] at h
  exact (Quoted.quote_append_inj h).1

/-- The refusal of a change holds no backtick in a bound. -/
theorem boundUnmarked_of_applyTo {v : TypeParameter TypeRef} {c : Change}
    (h : v.applyTo c = .error r) : r.BoundUnmarked := by
  rintro name bound rfl
  obtain rfl | rfl := TypeParameter.bound_of_applyTo h <;> decide

/-- **Texts tell refusals apart.** Two refusals have one sentence, and one
diagnostic, only if they are the same refusal, with the same names in it,
unless a bound in one of them holds a backtick. That no bound does is true of
every refusal that a change of a parameter meets, for the bound it names is
`Any` or `Any?`. -/
theorem eq_iff_texts_eq :
    (∀ r s : Rejection, r.BoundUnmarked → s.BoundUnmarked →
      (r.message = s.message ↔ r = s) ∧ (r.diagnostic = s.diagnostic ↔ r = s)) ∧
    ∀ (v : TypeParameter TypeRef) (c : Change) (name bound : String),
      v.applyTo c = .error (.definiteOfTop name bound) → bound = "Any" ∨ bound = "Any?" := by
  refine ⟨fun r s hr hs => ⟨⟨eq_of_message_eq hr hs, congrArg message⟩, ⟨fun h => ?_,
    congrArg diagnostic⟩⟩, fun _ _ _ _ h => TypeParameter.bound_of_applyTo h⟩
  exact eq_of_message_eq hr hs (message_eq_of_diagnostic_eq h)

/-- The name of a nullable parameter may imitate the sentence on a top type,
and does not get beyond the imitation. -/
theorem eq_iff_texts_eq_imitated :
    (TypeParameter.unbounded "T").applyTo .definite = .error (.definiteOfTop "T" "Any?") ∧
    (definiteOfTop "T" "Any?").message
      ≠ (definiteOfNullable "T` is only bounded by `Any").message ∧
    (definiteOfTop "T" "Any?").diagnostic
      ≠ (definiteOfNullable "T` is only bounded by `Any").diagnostic := by
  have hrefused : (TypeParameter.unbounded "T").applyTo .definite
      = .error (.definiteOfTop "T" "Any?") := rfl
  obtain ⟨hmessage, hdiagnostic⟩ := eq_iff_texts_eq.1 (.definiteOfTop "T" "Any?")
    (.definiteOfNullable "T` is only bounded by `Any") (boundUnmarked_of_applyTo hrefused)
    (fun name bound h => nomatch h)
  refine ⟨hrefused, fun h => ?_, fun h => ?_⟩
  · exact absurd (hmessage.mp h) (by decide)
  · exact absurd (hdiagnostic.mp h) (by decide)

/-- With a backtick in the bound, the sentence does not tell where the name ends. -/
example :
    (definiteOfTop "T` is only bounded by `Any" "Any?").message
      = (definiteOfTop "T" "Any` is only bounded by `Any?").message := by
  decide

end Rejection

end KotlinTypes
