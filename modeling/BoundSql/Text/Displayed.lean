import BoundSql.Text.Printable

/-!
# Texts shown in messages

A text in a message stands between double quotes, with escapes for what does not show up by itself.
-/

namespace BoundSql.Text

/-- A code point in base sixteen between braces. -/
def codePoint (c : Char) : List Char :=
  ['\\', 'u', '{'] ++ Nat.toDigits 16 c.toNat ++ ['}']

def displayedChar (c : Char) : List Char :=
  if c = '"' ∨ c = '\\' then ['\\', c]
  else if c = '\n' then ['\\', 'n']
  else if c = '\r' then ['\\', 'r']
  else if c = '\t' then ['\\', 't']
  else if c.toNat = 0 then ['\\', '0']
  else if isPrintable c then [c]
  else codePoint c

def displayed (s : String) : String :=
  String.ofList ('"' :: (s.toList.flatMap displayedChar ++ ['"']))

end BoundSql.Text
