import WireSchema.Text.Unprintable

/-! # Quoted texts

Messages show a text between double quotes, with everything spelled out that a reader could
not tell apart otherwise.

* `escapeChar` is the spelling of one character.
* `quote` is the quoted text.
* `hexadecimal` writes a code point, in lower case and without leading zeros.
-/

namespace WireSchema.Text

/-- The digits of a number to the base sixteen, in lower case. -/
def hexadecimal (n : Nat) : List Char :=
  Nat.toDigits 16 n

/-- How a quoted text spells a character: a short escape for the quote, the backslash and the
    common control characters, the code point for other characters that cannot be seen, and
    the character itself else. -/
def escapeChar (c : Char) : List Char :=
  if c = '\x00' then ['\\', '0']
  else if c = '\t' then ['\\', 't']
  else if c = '\r' then ['\\', 'r']
  else if c = '\n' then ['\\', 'n']
  else if c = '"' then ['\\', '"']
  else if c = '\\' then ['\\', '\\']
  else if isUnprintable c then ['\\', 'u', '\x7b'] ++ hexadecimal c.toNat ++ ['\x7d']
  else [c]

/-- A text between double quotes. -/
def quote (text : String) : String :=
  String.ofList (['"'] ++ text.toList.flatMap escapeChar ++ ['"'])

end WireSchema.Text
