import BoundSql.Decimal.Layout
import BoundSql.Text.Quoted
import BoundSql.Value

/-!
# Literals

Values written into the statement text. List membership never uses placeholders: an `IN` list is the text
of its elements between parentheses.
-/

namespace BoundSql

open Decimal

/-- Numbers in a statement have no exponent, and whole ones no point. Of two equally near numerals the
larger is taken. -/
def Literal.number : Layout where
  tie := .up
  positional := fun _ => true
  markWhole := false
  nan := "NaN"
  infinite := fun negative => if negative then "-inf" else "inf"

def Literal.bool (b : Bool) : String := if b then "TRUE" else "FALSE"

def Literal.int (n : Int) : List Char :=
  if n < 0 then '-' :: Nat.toDigits 10 n.natAbs else Nat.toDigits 10 n.natAbs

/-- Two digits in base sixteen. -/
def Literal.byte (b : UInt8) : List Char :=
  [(b.toNat / 16).digitChar.toUpper, (b.toNat % 16).digitChar.toUpper]

/-- The value as it is written into a statement. -/
def Value.literal : Value → List Char
  | null => "NULL".toList
  | bool b => (Literal.bool b).toList
  | int n => Literal.int n.toInt
  | float x => (Literal.number.float x).toList
  | text s => Text.quoted s.toList
  | blob bytes => 'X' :: '\'' :: (bytes.flatMap Literal.byte ++ ['\''])

def Value.inline (v : Value) : String := String.ofList v.literal

/-- An element of a literal list. -/
inductive Item where
  | bool (b : Bool)
  | int (n : Int)
  | float (x : Float)
  | single (x : Float32)
  | char (c : Char)
  | text (s : String)
  | value (v : Value)
  deriving Inhabited

/-- An element as it is displayed: texts are not quoted. -/
def Item.display : Item → String
  | bool b => if b then "true" else "false"
  | int n => String.ofList (Literal.int n)
  | float x => Literal.number.float x
  | single x => Literal.number.single x
  | char c => c.toString
  | text s => s
  | value v => v.inline

namespace Literal

def quoteAll (items : List Item) : List String :=
  items.map fun i => Text.quote i.display

/-- Elements between parentheses, separated by commas. -/
def list (elements : List String) : String :=
  "(" ++ ",".intercalate elements ++ ")"

@[simp] theorem list_nil : list [] = "()" := by
  simp [list]

end Literal

end BoundSql
