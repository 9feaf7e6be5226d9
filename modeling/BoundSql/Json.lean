/-!
# JSON texts, read as far as they go

A text is read into a tree before anyone knows what it should hold. Where the text stops being JSON the
tree has a break, and nothing follows it. Who walks the tree from left to right meets first what is wrong
first: a value of the wrong kind, or the break.

Some values are sound for one who passes over them, but cannot be used: a text with half of a surrogate
pair, a number beyond the floating-point range. They are leaves of their own.
-/

namespace BoundSql

namespace Json

/-- How a text stops being JSON. -/
inductive Fault where
  /-- Something stands there that cannot. -/
  | malformed
  /-- The text ends too soon. -/
  | unfinished
  deriving DecidableEq, Repr

/-- The end of what could be read, as it shows to one who uses the value, to one who passes over it, and to
one who takes nothing but a name. -/
structure Break where
  read : Fault
  skip : Fault
  name : Fault
  deriving DecidableEq, Repr

/-- A break that shows to all in the same way. -/
def Break.plain (f : Fault) : Break := ⟨f, f, f⟩

/-- Integers are those from `-2 ^ 63` to `2 ^ 64 - 1` that are written as such, zero without a sign. -/
inductive Number where
  | whole (n : Int)
  | real (x : Float)
  | huge
  deriving Inhabited

inductive Key where
  | name (s : String)
  /-- Half of a surrogate pair stands in it. -/
  | lone
  /-- The break stands before its end, and is the value of the member too. -/
  | unread (b : Break)
  deriving DecidableEq, Repr

end Json

inductive Json where
  | null
  | bool (b : Bool)
  | number (n : Json.Number)
  /-- Without text when half of a surrogate pair stands in it. -/
  | string (s : Option String)
  /-- `stop` is a break where a comma or the closing bracket should be. -/
  | array (items : List Json) (stop : Option Json.Break)
  | object (members : List (Json.Key × Json)) (stop : Option Json.Break)
  | broken (b : Json.Break)
  deriving Inhabited

end BoundSql
