import Mathlib.Data.List.TakeWhile
import KotlinTypes.Text.Quoted

/-!
# Quoted text is read back

An escaped character takes one place or many, and a code point as many as it
has digits, so nothing in the length of a quoted text tells where one character
ends. The text itself does. `Quoted.next` takes the escaped character off the
front and is right whatever follows (`Quoted.next_escape_append`): a backslash
tells that more is to come, the letter after it how much, and the digits of a
code point run up to a closing brace, which is no digit.

An escaped character does not start with a quote either, so the first quote
that is not escaped is the closing one. Quoted texts that start alike, with
anything behind their closing quotes, are therefore the same quoted text, and
quote the same text (`Quoted.quote_append_inj`).
-/

namespace KotlinTypes.Quoted

/-! ## Hexadecimal digits -/

/-- The value of a hexadecimal digit. -/
def digitValue (c : Char) : Nat :=
  "0123456789abcdef".toList.idxOf c

/-- The number that hexadecimal digits stand for. -/
def hexValue (digits : List Char) : Nat :=
  digits.foldl (fun n c => 16 * n + digitValue c) 0

/-- A hexadecimal digit has the value it was written for. -/
theorem digitValue_digitChar {d : Nat} (h : d < 16) : digitValue d.digitChar = d := by
  have hall : ∀ d < 16, digitValue d.digitChar = d := by decide
  exact hall d h

/-- **The hexadecimal digits of a number stand for it.** -/
theorem hexValue_toDigits (n : Nat) : hexValue (Nat.toDigits 16 n) = n := by
  induction n using Nat.strongRecOn with
  | ind n ih =>
    rw [Nat.toDigits_eq_if (by decide)]
    split
    · next h =>
      show 16 * 0 + digitValue n.digitChar = n
      rw [digitValue_digitChar h, Nat.mul_zero, Nat.zero_add]
    · next h =>
      unfold hexValue
      rw [List.foldl_append]
      show 16 * hexValue (Nat.toDigits 16 (n / 16)) + digitValue (n % 16).digitChar = n
      rw [ih (n / 16) (by omega), digitValue_digitChar (Nat.mod_lt n (by decide))]
      omega

/-- A closing brace is no hexadecimal digit. -/
theorem brace_notMem_toDigits (n : Nat) : '\x7d' ∉ Nat.toDigits 16 n := by
  have hdigit : ∀ d : Nat, '\x7d' ∉ [d.digitChar] := fun d h =>
    Nat.digitChar_ne '\x7d' (by decide) (List.mem_singleton.mp h).symm
  induction n using Nat.strongRecOn with
  | ind n ih =>
    rw [Nat.toDigits_eq_if (by decide)]
    split
    · exact hdigit n
    · rw [List.mem_append, not_or]
      exact ⟨ih (n / 16) (by omega), hdigit (n % 16)⟩

/-! ## One character -/

/-- The character that a letter after a backslash stands for. -/
def ofLetter (letter : Char) : Char :=
  if letter = '0' then '\x00'
  else if letter = 't' then '\t'
  else if letter = 'r' then '\r'
  else if letter = 'n' then '\n'
  else letter

/-- **The character at the front of escaped text**, and what follows it. -/
def next : List Char → Option (Char × List Char)
  | '\\' :: 'u' :: '\x7b' :: rest =>
      some (Char.ofNat (hexValue (rest.takeWhile (fun c => c ≠ '\x7d'))),
        (rest.dropWhile (fun c => c ≠ '\x7d')).drop 1)
  | '\\' :: letter :: rest => some (ofLetter letter, rest)
  | c :: rest => some (c, rest)
  | [] => none

/-- A character named by its code point is read back. -/
theorem next_named_append (c : Char) (rest : List Char) :
    next (named c ++ rest) = some (c, rest) := by
  have hdigits : ∀ d ∈ Nat.toDigits 16 c.toNat, decide (d ≠ '\x7d') = true := fun d hd =>
    decide_eq_true (fun h => brace_notMem_toDigits c.toNat (h ▸ hd))
  show next ('\\' :: 'u' :: '\x7b' :: ((Nat.toDigits 16 c.toNat ++ ['\x7d']) ++ rest)) = _
  rw [List.append_assoc]
  show some (Char.ofNat (hexValue ((Nat.toDigits 16 c.toNat ++ '\x7d' :: rest).takeWhile _)),
    ((Nat.toDigits 16 c.toNat ++ '\x7d' :: rest).dropWhile _).drop 1) = _
  rw [List.takeWhile_append_of_pos hdigits, List.dropWhile_append_of_pos hdigits]
  show some (Char.ofNat (hexValue (Nat.toDigits 16 c.toNat ++ [])), rest) = _
  rw [List.append_nil, hexValue_toDigits, Char.ofNat_toNat]

/-- **An escaped character is read back, whatever follows it.** -/
theorem next_escape_append (c : Char) (rest : List Char) :
    next (escape c ++ rest) = some (c, rest) := by
  unfold escape
  split_ifs with hnul htab hreturn hline hbackslash hquote hinvisible
  · rw [hnul]; rfl
  · rw [htab]; rfl
  · rw [hreturn]; rfl
  · rw [hline]; rfl
  · rw [hbackslash]; rfl
  · rw [hquote]; rfl
  · exact next_named_append c rest
  · show next (c :: rest) = _
    unfold next
    split <;> simp_all

/-- An escaped character does not start with a quote. -/
theorem escape_ne_quote_cons (c : Char) (rest rest' : List Char) :
    escape c ++ rest ≠ '"' :: rest' := by
  intro h
  -- read from the front, the character would have to be the quote, which takes a backslash
  have hnext := next_escape_append c rest
  rw [h] at hnext
  obtain rfl : '"' = c := congrArg Prod.fst (Option.some.inj hnext)
  exact absurd (List.cons.inj h).1 (by decide)

/-! ## Whole texts -/

/-- **Escaped text ends at the first quote that is not escaped**, and it is read
back up to there. -/
theorem flatMap_escape_append_inj {s t rest rest' : List Char}
    (h : s.flatMap escape ++ '"' :: rest = t.flatMap escape ++ '"' :: rest') :
    s = t ∧ rest = rest' := by
  induction s generalizing t with
  | nil =>
    match t with
    | [] => exact ⟨rfl, (List.cons.inj h).2⟩
    | d :: t =>
      rw [List.flatMap_cons, List.append_assoc] at h
      exact absurd h.symm (escape_ne_quote_cons d _ _)
  | cons c s ih =>
    rw [List.flatMap_cons, List.append_assoc] at h
    match t with
    | [] => exact absurd h (escape_ne_quote_cons c _ _)
    | d :: t =>
      rw [List.flatMap_cons, List.append_assoc] at h
      have hnext := congrArg next h
      rw [next_escape_append, next_escape_append] at hnext
      obtain ⟨rfl, hrest⟩ := Prod.mk.inj (Option.some.inj hnext)
      obtain ⟨rfl, rfl⟩ := ih hrest
      exact ⟨rfl, rfl⟩

/-- **A quoted text tells the text and where it ends.** -/
theorem quote_append_inj {s t rest rest' : String}
    (h : quote s ++ rest = quote t ++ rest') : s = t ∧ rest = rest' := by
  have hchars := congrArg String.toList h
  unfold quote at hchars
  rw [String.toList_append, String.toList_append, String.toList_ofList, String.toList_ofList,
    List.cons_append, List.cons_append, List.append_assoc, List.append_assoc] at hchars
  obtain ⟨htext, hrest⟩ := flatMap_escape_append_inj (List.cons.inj hchars).2
  exact ⟨String.toList_inj.mp htext, String.toList_inj.mp hrest⟩

end KotlinTypes.Quoted
