import BoundSql.Json

/-!
# JSON numbers

An integer of 64 bits is read as it is. Of any other number the leading digits are taken, as many as fit into
64 bits, and their floating-point number is multiplied or divided by a power of ten. Both steps round, so the
result need not be the nearest number, and close to the end of the range it may be out of it.
-/

namespace BoundSql.Json

/-- Takes digits behind those of `n` while the significand fits into 64 bits. The second component is what is
left of them. -/
def accumulate (n : UInt64) : List Char → UInt64 × List Char
  | [] => (n, [])
  | c :: cs =>
    let m := 10 * n.toNat + (c.toNat - '0'.toNat)
    if m < 0x10000000000000000 then accumulate m.toUInt64 cs else (n, c :: cs)

/-- The exponent of the largest power of ten that is a floating-point number. -/
def maxPower : Nat := 308

def powerOfTen (n : Nat) : Float := Float.ofScientific 1 false n

/-- `x` multiplied or divided by a power of ten, or nothing if that is beyond the range. A division by more
than the largest power is done in steps. -/
def scale? (x : Float) (exponent : Int) : Option Float :=
  if exponent.natAbs ≤ maxPower then
    if exponent < 0 then some (x / powerOfTen exponent.natAbs)
    else
      let y := x * powerOfTen exponent.natAbs
      if y.isInf then none else some y
  else if x == 0 then some x
  else if 0 ≤ exponent then none
  else scale? (x / powerOfTen maxPower) (exponent + maxPower)
termination_by exponent.natAbs
decreasing_by
  simp only [maxPower] at *
  omega

def Number.scaled (negative : Bool) (significand : UInt64) (exponent : Int) : Number :=
  match scale? significand.toFloat exponent with
  | some x => .real (if negative then -x else x)
  | none => .huge

/-- Integers outside the 64-bit ranges, and zero with a sign, are floating-point numbers. `dropped` digits
stand behind the significand. -/
def Number.ofWhole (negative : Bool) (significand : UInt64) (dropped : Nat) : Number :=
  if dropped ≠ 0 then .scaled negative significand dropped
  else if negative then
    if significand = 0 ∨ 0x8000000000000000 < significand then .scaled true significand 0
    else .whole (-significand.toNat)
  else .whole significand.toNat

/-- A sign and at least one digit, behind the letter of an exponent. -/
def exponentSign : List Char → Bool × List Char
  | '+' :: cs => (false, cs)
  | '-' :: cs => (true, cs)
  | cs => (false, cs)

/-- The break where a digit is missing. One who passes over the number does not tell the end of the text
from a wrong character. -/
def cutAt (cs : List Char) : Break :=
  ⟨if cs.isEmpty then .unfinished else .malformed, .malformed, .malformed⟩

/-- Reads an optional exponent behind the digits of a number: without one it is `plain`. The second component
is the rest, or the break. -/
def exponent? (plain : Number) (scaled : Int → Number) (cs : List Char) : Except Break (Number × List Char) :=
  match cs with
  | 'e' :: cs | 'E' :: cs =>
    let (down, cs) := exponentSign cs
    let digits := cs.takeWhile Char.isDigit
    if digits.isEmpty then .error (cutAt cs)
    else
      let e : Int := Nat.ofDigitChars 10 digits 0
      .ok (scaled (if down then -e else e), cs.dropWhile Char.isDigit)
  | cs => .ok (plain, cs)

/-- Reads a number behind its sign. Digits behind the point go into the same significand. -/
def numeral (negative : Bool) (cs : List Char) : Except Break (Number × List Char) :=
  let whole := cs.takeWhile Char.isDigit
  let (n, dropped) := accumulate 0 whole
  match whole, cs.dropWhile Char.isDigit with
  | [], cs => .error (cutAt cs)
  | '0' :: _ :: _, _ => .error (.plain .malformed)
  | _, '.' :: cs =>
    let fraction := cs.takeWhile Char.isDigit
    if fraction.isEmpty then .error (cutAt cs)
    else
      let (m, ignored) := accumulate n fraction
      let shift : Int := dropped.length + ignored.length - fraction.length
      let scaled (e : Int) : Number := .scaled negative m (shift + e)
      exponent? (scaled 0) scaled (cs.dropWhile Char.isDigit)
  | _, cs => exponent? (.ofWhole negative n dropped.length) (fun e => .scaled negative n (dropped.length + e)) cs

end BoundSql.Json
