/-!
# Values

What a statement binds to its `?` placeholders, and what callers may hand over to be bound.
-/

namespace BoundSql

inductive Value where
  | null
  | bool (b : Bool)
  | int (n : Int64)
  | float (x : Float)
  | text (s : String)
  | blob (bytes : List UInt8)
  deriving BEq, Inhabited

/-- A value that is never missing. -/
inductive Scalar where
  | bool (b : Bool)
  | int (n : Int64)
  | float (x : Float)
  | single (x : Float32)
  deriving Inhabited

/-- What can be bound: an option may hold another one. -/
inductive Bindable where
  | scalar (s : Scalar)
  | text (s : String)
  | value (v : Value)
  | bytes (b : List UInt8)
  | absent
  | present (b : Bindable)
  deriving Inhabited

namespace Value

def isNull : Value → Bool
  | null => true
  | _ => false

/-- Null and the empty text stand for a criterion that was not given. -/
def isPresent : Value → Bool
  | null => false
  | text s => s ≠ ""
  | _ => true

end Value

/-- A single-precision number widens without loss. -/
def Scalar.toValue : Scalar → Value
  | bool b => .bool b
  | int n => .int n
  | float x => .float x
  | single x => .float x.toFloat

/-- An absent option binds null. -/
def Bindable.toValue : Bindable → Value
  | scalar s => s.toValue
  | text s => .text s
  | value v => v
  | bytes b => .blob b
  | absent => .null
  | present b => b.toValue

theorem Scalar.isPresent_toValue (s : Scalar) : s.toValue.isPresent = true := by
  cases s <;> rfl

end BoundSql
