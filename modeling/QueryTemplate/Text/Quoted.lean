import QueryTemplate.Text.Printable

/-!
# Quoted text

A report shows a text between double quotes, on one line and in printable characters only.  A
backslash begins an escape: a letter for the common control characters, the character itself for a
quote or a backslash, and the code point in hexadecimal digits for everything else that is not
printable.
-/

namespace QueryTemplate.Text

/-- The escape of a character by its code point, in hexadecimal digits between braces. -/
def codePointEscape (c : Char) : Text :=
  ['\x5c', 'u', '\x7b'] ++ (Nat.toDigits 16 c.toNat ++ ['\x7d'])

/-- The letter or sign that stands after a backslash for a character that has an escape of its
own. -/
def shortEscape? (c : Char) : Option Char :=
  if c = '\x00' then some '0'
  else if c = '\t' then some 't'
  else if c = '\x0d' then some 'r'
  else if c = '\n' then some 'n'
  else if c = '\x22' ∨ c = '\x5c' then some c
  else none

/-- A character as it stands in quoted text. -/
def quotedChar (c : Char) : Text :=
  match shortEscape? c with
  | some letter => ['\x5c', letter]
  | none => if isPrintable c then [c] else codePointEscape c

/-- **A text in quotes.** -/
def quoted (t : Text) : Text :=
  '\x22' :: (t.flatMap quotedChar ++ ['\x22'])

end QueryTemplate.Text
