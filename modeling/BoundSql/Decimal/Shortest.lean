/-!
# The fewest digits

A natural number `v` lies between `low` and `high`. Among the numbers of that interval that have the
fewest significant digits, `shortest` finds one that is nearest to `v`. Only the two neighbours of `v`
on each decimal grid have to be tried: if a grid has a point in the interval, one of them is in it.
-/

namespace BoundSql.Decimal

/-- Which of two equally near candidates is taken. -/
inductive Tie where
  | up
  | even
  deriving DecidableEq, Repr

/-- A closed or an open interval of natural numbers. -/
structure Interval where
  low : Nat
  high : Nat
  closed : Bool

def Interval.contains (i : Interval) (n : Nat) : Bool :=
  if i.closed then decide (i.low ≤ n ∧ n ≤ i.high) else decide (i.low < n ∧ n < i.high)

/-- The neighbour of `v` on the grid of multiples of `step` that lies in the interval, as a multiple of
`step`. The nearer one if both do. -/
def gridPoint (i : Interval) (tie : Tie) (v step : Nat) : Option Nat :=
  let d := v / step
  let below := i.contains (d * step)
  let above := i.contains ((d + 1) * step)
  match below, above with
  | false, false => none
  | true, false => some d
  | false, true => some (d + 1)
  | true, true =>
    match compare (2 * (v % step)) step with
    | .lt => some d
    | .gt => some (d + 1)
    | .eq =>
      match tie with
      | .up => some (d + 1)
      | .even => some (if d % 2 = 0 then d else d + 1)

/-- Tries the grids of `10 ^ k`, `10 ^ (k - 1)`, down to `1`. The result `(d, k)` stands for
`d * 10 ^ k`. -/
def shortest (i : Interval) (tie : Tie) (v : Nat) : Nat → Nat × Nat
  | 0 => (v, 0)
  | k + 1 =>
    match gridPoint i tie v (Nat.pow 10 (k + 1)) with
    | some d => (d, k + 1)
    | none => shortest i tie v k

/-- Decimal digits, the most significant one first; none for zero. -/
def digits (n : Nat) : List Char :=
  if n = 0 then [] else Nat.toDigits 10 n

/-- Significant digits and the decimal exponent of the first of them. -/
structure Numeral where
  digits : List Char
  exponent : Int
  deriving DecidableEq, Repr

/-- The digits of `d * 10 ^ shift`, without the zeros at the end. -/
def Numeral.ofScaled (d : Nat) (shift : Int) : Numeral :=
  let all := Decimal.digits d
  let kept := (all.reverse.dropWhile (· = '0')).reverse
  ⟨if kept.isEmpty then ['0'] else kept, if kept.isEmpty then 0 else all.length - 1 + shift⟩

end BoundSql.Decimal
