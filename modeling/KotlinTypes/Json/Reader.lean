import KotlinTypes.Json.Basic

/-!
# Reading JSON text

A document is one value with nothing but blanks around it. Reading is strict:
no comments, no trailing commas, no leading zeros, no raw control characters in
strings. A string is read in three steps. First its body is cut off at the
closing quote; then escapes are resolved to code units, where `\u` gives one
unit of UTF-16; last, surrogate pairs are joined. The first two steps decide
whether the string is well written. The last decides whether it is text, which
a string with a surrogate without its partner is not.
-/

namespace KotlinTypes.Json.Reader

/-- Whether the character is one of JSON's blanks. -/
def isBlank (c : Char) : Bool :=
  c = ' ' || c = '\n' || c = '\t' || c = '\r'

/-- What follows the blanks at the front. -/
def skipBlanks (cs : List Char) : List Char :=
  cs.dropWhile isBlank

/-! ## Strings -/

/-- **The raw body of a string** and what follows its closing quote. A quote
after a backslash does not close. -/
def body? : List Char → Option (List Char × List Char)
  | [] => none
  | '"' :: rest => some ([], rest)
  | '\\' :: c :: rest => (body? rest).map (fun (body, rest) => ('\\' :: c :: body, rest))
  | c :: rest => (body? rest).map (fun (body, rest) => (c :: body, rest))

/-- The value of a hexadecimal digit. -/
def hexValue? (c : Char) : Option Nat :=
  if '0' ≤ c ∧ c ≤ '9' then some (c.toNat - '0'.toNat)
  else if 'a' ≤ c ∧ c ≤ 'f' then some (c.toNat - 'a'.toNat + 10)
  else if 'A' ≤ c ∧ c ≤ 'F' then some (c.toNat - 'A'.toNat + 10)
  else none

/-- The value of four hexadecimal digits. -/
def hexUnit? (a b c d : Char) : Option Nat := do
  let a ← hexValue? a
  let b ← hexValue? b
  let c ← hexValue? c
  let d ← hexValue? d
  return ((a * 16 + b) * 16 + c) * 16 + d

/-- The character that a letter after a backslash stands for. -/
def letterEscape? : Char → Option Char
  | '"' => some '"'
  | '\\' => some '\\'
  | '/' => some '/'
  | 'b' => some '\x08'
  | 'f' => some '\x0c'
  | 'n' => some '\n'
  | 'r' => some '\r'
  | 't' => some '\t'
  | _ => none

/-- **The code units of a raw body**: a code point for a character that stands
for itself or has a letter, one unit of UTF-16 for a `\u`. -/
def units? : List Char → Option (List Nat)
  | [] => some []
  | '\\' :: 'u' :: a :: b :: c :: d :: rest => do
      let unit ← hexUnit? a b c d
      let units ← units? rest
      return unit :: units
  | '\\' :: c :: rest => do
      let c ← letterEscape? c
      let units ← units? rest
      return c.toNat :: units
  | c :: rest =>
      if c = '\\' ∨ c.toNat < 0x20 then none else (units? rest).map (c.toNat :: ·)

/-- Whether the unit is the first half of a surrogate pair. -/
def isHighSurrogate (n : Nat) : Bool :=
  decide (0xD800 ≤ n) && decide (n < 0xDC00)

/-- Whether the unit is the second half of a surrogate pair. -/
def isLowSurrogate (n : Nat) : Bool :=
  decide (0xDC00 ≤ n) && decide (n < 0xE000)

/-- **The characters of code units**: a surrogate pair is one character, and a
surrogate alone is none. -/
def characters? : List Nat → Option (List Char)
  | [] => some []
  | high :: low :: rest =>
      if isHighSurrogate high then
        if isLowSurrogate low then
          (characters? rest).map
            (Char.ofNat (0x10000 + (high - 0xD800) * 0x400 + (low - 0xDC00)) :: ·)
        else none
      else if isLowSurrogate high then none
      else (characters? (low :: rest)).map (Char.ofNat high :: ·)
  | [unit] => if isHighSurrogate unit || isLowSurrogate unit then none else some [Char.ofNat unit]

/-- **Reads a string** after its opening quote, and gives its text if it is
text. -/
def string? (cs : List Char) : Option (Option String × List Char) := do
  let (body, rest) ← body? cs
  let units ← units? body
  return ((characters? units).map String.ofList, rest)

/-! ## Numbers -/

/-- The digits at the front, and what follows them. -/
def digits (cs : List Char) : List Char × List Char :=
  (cs.takeWhile Char.isDigit, cs.dropWhile Char.isDigit)

/-- The whole part of a number: one digit, or more of which the first is not
zero. -/
def whole? (cs : List Char) : Option (List Char × List Char) :=
  match digits cs with
  | ([], _) => none
  | ('0' :: _ :: _, _) => none
  | found => some found

/-- The digits behind a decimal point, if there is one. -/
def fraction? : List Char → Option (List Char × List Char)
  | '.' :: rest =>
      match digits rest with
      | ([], _) => none
      | (ds, rest) => some ('.' :: ds, rest)
  | cs => some ([], cs)

/-- The sign of an exponent, if there is one. -/
def sign : List Char → List Char × List Char
  | '+' :: rest => (['+'], rest)
  | '-' :: rest => (['-'], rest)
  | cs => ([], cs)

/-- The exponent, if there is one. -/
def exponent? : List Char → Option (List Char × List Char)
  | [] => some ([], [])
  | e :: rest =>
      if e = 'e' ∨ e = 'E' then
        let (s, rest) := sign rest
        match digits rest with
        | ([], _) => none
        | (ds, rest) => some (e :: (s ++ ds), rest)
      else some ([], e :: rest)

/-- **Reads a number** and keeps it as written. -/
def number? (cs : List Char) : Option (Json × List Char) := do
  let (minus, rest) :=
    match cs with
    | '-' :: rest => (['-'], rest)
    | _ => ([], cs)
  let (w, rest) ← whole? rest
  let (f, rest) ← fraction? rest
  let (e, rest) ← exponent? rest
  return (.number (String.ofList (minus ++ w ++ f ++ e)), rest)

/-! ## Values -/

mutual
/-- Reads a value after blanks. The depth bounds the calls below this one. -/
def value? (depth : Nat) (cs : List Char) : Option (Json × List Char) :=
  match depth with
  | 0 => none
  | depth + 1 =>
    match skipBlanks cs with
    | 'n' :: 'u' :: 'l' :: 'l' :: rest => some (.null, rest)
    | 't' :: 'r' :: 'u' :: 'e' :: rest => some (.bool true, rest)
    | 'f' :: 'a' :: 'l' :: 's' :: 'e' :: rest => some (.bool false, rest)
    | '"' :: rest => (string? rest).map (fun (s, rest) => (s.elim .unreadable .string, rest))
    | '[' :: rest =>
      match skipBlanks rest with
      | ']' :: rest => some (.array [], rest)
      | rest => (items? depth rest).map (fun (items, rest) => (.array items, rest))
    | '\x7b' :: rest =>
      match skipBlanks rest with
      | '\x7d' :: rest => some (.object [], rest)
      | rest => (members? depth rest).map (fun (members, rest) => (.ofMembers members, rest))
    | rest => number? rest
  termination_by structural depth
/-- Reads the items of an array up to its closing bracket. -/
def items? (depth : Nat) (cs : List Char) : Option (List Json × List Char) :=
  match depth with
  | 0 => none
  | depth + 1 => do
    let (item, rest) ← value? depth cs
    match skipBlanks rest with
    | ']' :: rest => some ([item], rest)
    | ',' :: rest =>
      let (items, rest) ← items? depth rest
      some (item :: items, rest)
    | _ => none
  termination_by structural depth
/-- Reads the members of an object up to its closing brace. -/
def members? (depth : Nat) (cs : List Char) : Option (List (Option String × Json) × List Char) :=
  match depth with
  | 0 => none
  | depth + 1 =>
    match skipBlanks cs with
    | '"' :: rest => do
      let (name, rest) ← string? rest
      match skipBlanks rest with
      | ':' :: rest =>
        let (value, rest) ← value? depth rest
        match skipBlanks rest with
        | '\x7d' :: rest => some ([(name, value)], rest)
        | ',' :: rest =>
          let (members, rest) ← members? depth rest
          some ((name, value) :: members, rest)
        | _ => none
      | _ => none
    | _ => none
  termination_by structural depth
end

end KotlinTypes.Json.Reader

namespace KotlinTypes.Json

/-- **The value of a JSON document**, if the text is one. Of any two calls of
the reader, one inside the other, at least one uses up a character, so twice
the length of the text bounds how deep they nest. -/
def parse? (text : String) : Option Json :=
  let cs := text.toList
  match Reader.value? (2 * cs.length + 2) cs with
  | some (value, rest) => if (Reader.skipBlanks rest).isEmpty then some value else none
  | none => none

end KotlinTypes.Json
