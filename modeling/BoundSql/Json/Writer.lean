import BoundSql.Decimal.Layout
import BoundSql.Fragment

/-!
# Writing statements as JSON

An object of the text and the values, on one line or over several.
-/

namespace BoundSql.Json

open Decimal

/-- Numbers with a decimal exponent from -5 to 15 have the point in place. What is no number is null. Of two
equally near numerals the even one is taken. -/
def layout : Layout where
  tie := .even
  positional := fun e => -5 ≤ e && e ≤ 15
  markWhole := true
  nan := "null"
  infinite := fun _ => "null"

/-- A character as it stands between quotes. -/
def escaped (c : Char) : List Char :=
  match c with
  | '"' => ['\\', '"']
  | '\\' => ['\\', '\\']
  | '\x08' => ['\\', 'b']
  | '\x0c' => ['\\', 'f']
  | '\n' => ['\\', 'n']
  | '\r' => ['\\', 'r']
  | '\t' => ['\\', 't']
  | c =>
    if c < ' ' then
      ['\\', 'u', '0', '0', (c.toNat / 16).digitChar, (c.toNat % 16).digitChar]
    else [c]

def writeText (s : String) : List Char :=
  '"' :: (s.toList.flatMap escaped ++ ['"'])

def writeInt (n : Int) : List Char :=
  if n < 0 then '-' :: Nat.toDigits 10 n.natAbs else Nat.toDigits 10 n.natAbs

/-- How the parts of an array or an object are set apart: the text that starts a line at a depth, and the
text behind a key. -/
structure Spacing where
  line : Nat → List Char
  afterKey : List Char

def Spacing.compact : Spacing := ⟨fun _ => [], []⟩

/-- Every element on a line of its own, two blanks further in than what it belongs to. -/
def Spacing.pretty : Spacing := ⟨fun depth => '\n' :: List.replicate (2 * depth) ' ', [' ']⟩

/-- Elements between two brackets. -/
def enclosed (s : Spacing) (depth : Nat) (left right : Char) (elements : List (List Char)) : List Char :=
  if elements.isEmpty then [left, right]
  else
    left :: (s.line (depth + 1) ++ List.intercalate (',' :: s.line (depth + 1)) elements ++
      s.line depth ++ [right])

/-- A blob is an array of its bytes. -/
def writeValue (s : Spacing) (depth : Nat) : Value → List Char
  | .null => "null".toList
  | .bool b => if b then "true".toList else "false".toList
  | .int n => writeInt n.toInt
  | .float x => (layout.float x).toList
  | .text t => writeText t
  | .blob bytes => enclosed s depth '[' ']' (bytes.map fun b => Nat.toDigits 10 b.toNat)

def writeStatement (s : Spacing) (f : Fragment) : List Char :=
  enclosed s 0 '{' '}'
    [writeText "sql" ++ ':' :: (s.afterKey ++ writeText f.sql),
      writeText "values" ++ ':' :: (s.afterKey ++
        enclosed s 1 '[' ']' (f.values.map (writeValue s 2)))]

end BoundSql.Json

namespace BoundSql.Fragment

/-- The statement as JSON on one line. -/
def toJson (f : Fragment) : String := String.ofList (Json.writeStatement .compact f)

/-- The statement as JSON over several lines. -/
def toPrettyJson (f : Fragment) : String := String.ofList (Json.writeStatement .pretty f)

end BoundSql.Fragment
