import TwoPhase.Text.Unprintable
import TwoPhase.Text.Extender

/-!
# Quoted texts

How a dump shows a string so that every character can be seen: between double quotes, the
quote, the backslash and five controls behind a backslash, and any other character without a
visible form of its own by its code point in lower-case hexadecimal.
-/

namespace TwoPhase.Text

/-- Lower-case hexadecimal digits without leading zeros. -/
def hexDigits (n : Nat) : List Char := Nat.toDigits 16 n

/-- The escape for a character named by its code point. -/
def codePointEscape (c : Char) : List Char :=
  ['\\', 'u', '\x7b'] ++ hexDigits c.toNat ++ ['\x7d']

/-- How one character is written between the quotes. -/
def quoteChar (c : Char) : List Char :=
  if c = '\x00' then ['\\', '0']
  else if c = '\t' then ['\\', 't']
  else if c = '\r' then ['\\', 'r']
  else if c = '\n' then ['\\', 'n']
  else if c = '\\' then ['\\', '\\']
  else if c = '"' then ['\\', '"']
  else if isExtender c || isUnprintable c then codePointEscape c
  else [c]

/-- A string between double quotes, each character written by `quoteChar`. -/
def quote (s : String) : String :=
  String.ofList ('"' :: (s.toList.flatMap quoteChar ++ ['"']))

end TwoPhase.Text
