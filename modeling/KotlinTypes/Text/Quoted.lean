import KotlinTypes.Text.Invisible

/-!
# Quoted text

Text shown to a person who debugs is put between quotes, and what cannot be
seen in it is spelled out: the quote and the backslash take a backslash, the
common controls have a letter of their own, and any other character that is
invisible, or that would merge with the one before it, is named by its code
point in hexadecimal. A quoted text is therefore one line of visible
characters.
-/

namespace KotlinTypes.Quoted

/-- The code point in lower-case hexadecimal without leading zeros, written as
`\u`, an opening brace, the digits and a closing brace. -/
def named (c : Char) : List Char :=
  '\\' :: 'u' :: '\x7b' :: (Nat.toDigits 16 c.toNat ++ ['\x7d'])

/-- **How one character stands in quoted text.** -/
def escape (c : Char) : List Char :=
  if c = '\x00' then ['\\', '0']
  else if c = '\t' then ['\\', 't']
  else if c = '\r' then ['\\', 'r']
  else if c = '\n' then ['\\', 'n']
  else if c = '\\' then ['\\', '\\']
  else if c = '"' then ['\\', '"']
  else if isInvisible c then named c
  else [c]

/-- **The quoted text**: every character escaped, between two quotes. -/
def quote (text : String) : String :=
  String.ofList ('"' :: (text.toList.flatMap escape ++ ['"']))

end KotlinTypes.Quoted
