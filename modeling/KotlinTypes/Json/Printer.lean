import KotlinTypes.Json.Basic

/-!
# Compact JSON text

A JSON value is written without blanks. In a string the quote, the backslash
and the control characters are escaped, those with a letter of their own by
that letter and the others by four hexadecimal digits; every other character
stands for itself. An unreadable value has nothing to show and is written as
`null`.
-/

namespace KotlinTypes.Json

/-- A control character by its code point, in four hexadecimal digits. -/
def controlEscape (c : Char) : List Char :=
  let digits := Nat.toDigits 16 c.toNat
  '\\' :: 'u' :: (List.replicate (4 - digits.length) '0' ++ digits)

/-- **How one character stands in a JSON string.** -/
def escape (c : Char) : List Char :=
  if c = '"' then ['\\', '"']
  else if c = '\\' then ['\\', '\\']
  else if c = '\n' then ['\\', 'n']
  else if c = '\t' then ['\\', 't']
  else if c = '\r' then ['\\', 'r']
  else if c = '\x08' then ['\\', 'b']
  else if c = '\x0c' then ['\\', 'f']
  else if c.toNat < 0x20 then controlEscape c
  else [c]

/-- A string as a JSON string. -/
def quote (s : String) : String :=
  String.ofList ('"' :: (s.toList.flatMap escape ++ ['"']))

mutual
/-- Adds the text of a value. -/
def writeOnto (text : String) : Json → String
  | .null => text ++ "null"
  | .bool true => text ++ "true"
  | .bool false => text ++ "false"
  | .number literal => text ++ literal
  | .string s => text ++ quote s
  | .array [] => text ++ "[]"
  | .array (item :: items) => writeItemsOnto (writeOnto (text ++ "[") item) items ++ "]"
  | .object [] => text ++ "\x7b\x7d"
  | .object ((name, value) :: members) =>
      writeMembersOnto (writeOnto (text ++ "\x7b" ++ quote name ++ ":") value) members ++ "\x7d"
  | .unreadable => text ++ "null"
  termination_by structural value => value
/-- Adds the text of the items after the first, a comma before each. -/
def writeItemsOnto (text : String) : List Json → String
  | [] => text
  | item :: items => writeItemsOnto (writeOnto (text ++ ",") item) items
  termination_by structural items => items
/-- Adds the text of the members after the first, a comma before each. -/
def writeMembersOnto (text : String) : List (String × Json) → String
  | [] => text
  | (name, value) :: members =>
      writeMembersOnto (writeOnto (text ++ "," ++ quote name ++ ":") value) members
  termination_by structural members => members
end

/-- **The compact text** of a JSON value. -/
def compact (value : Json) : String :=
  writeOnto "" value

end KotlinTypes.Json
