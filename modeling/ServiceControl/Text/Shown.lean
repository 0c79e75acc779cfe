import ServiceControl.Text.Hex
import ServiceControl.Unicode.Hidden

/-!
# Showing texts

A shown text stands in quotes, and every character of it can be told from any other by eye: quotes,
backslashes and hidden characters are escaped.
-/

namespace ServiceControl.Text

/-- A code point in braces behind the letter of its escape. -/
def codeEscape (c : Char) : List Char :=
  '\\' :: 'u' :: '\x7b' :: (Nat.toDigits 16 c.toNat ++ ['\x7d'])

/-- The characters that stand for one character of a shown text. -/
def shownChar (c : Char) : List Char :=
  if c.toNat = 0 then ['\\', '0']
  else if c = '\t' then ['\\', 't']
  else if c = '\r' then ['\\', 'r']
  else if c = '\n' then ['\\', 'n']
  else if c = '"' then ['\\', '"']
  else if c = '\\' then ['\\', '\\']
  else if Unicode.isHidden c then codeEscape c
  else [c]

/-- A text in quotes, escaped. -/
def shown (s : String) : String := String.ofList ('"' :: (s.toList.flatMap shownChar ++ ['"']))

/-- Shown texts between brackets. -/
def shownList (l : List String) : String := "[" ++ ", ".intercalate (l.map shown) ++ "]"

end ServiceControl.Text
