import BoundSql.Decimal.Shortest

/-!
# Binary floating point

The bits of a floating-point number of any width, read as a sign and a multiple of a power of two, and
the fewest decimal digits that read back to it.
-/

namespace BoundSql.Decimal

/-- The sizes of the two fields behind the sign bit. -/
structure Width where
  fraction : Nat
  exponent : Nat

def Width.double : Width := ⟨52, 11⟩
def Width.single : Width := ⟨23, 8⟩

/-- The number `mantissa * 2 ^ exponent`. Below a power of two the next number is nearer than above it,
and then `narrow` holds. -/
structure Binary where
  mantissa : Nat
  exponent : Int
  narrow : Bool
  deriving DecidableEq, Repr

/-- What a bit pattern stands for. -/
inductive Reading where
  | nan
  | infinite (negative : Bool)
  | finite (negative : Bool) (magnitude : Binary)
  deriving DecidableEq, Repr

def Reading.ofBits (w : Width) (bits : Nat) : Reading :=
  let fraction := bits % (1 <<< w.fraction)
  let biased := (bits >>> w.fraction) % (1 <<< w.exponent)
  let negative := decide ((bits >>> (w.fraction + w.exponent)) % 2 = 1)
  let least : Int := 2 - Int.ofNat (1 <<< (w.exponent - 1)) - Int.ofNat w.fraction
  if biased = (1 <<< w.exponent) - 1 then
    if fraction = 0 then .infinite negative else .nan
  else if biased = 0 then
    .finite negative ⟨fraction, least, false⟩
  else
    .finite negative
      ⟨(1 <<< w.fraction) + fraction, least + Int.ofNat (biased - 1), fraction = 0 && 1 < biased⟩

/-- The number in units of `10 ^ (-scale)`, with the interval of the reals that round to it. The ends
belong to the interval when the mantissa is even. Quarters of the last binary place are enough to tell
the ends, and a power of ten with as many factors two makes all three natural numbers. -/
def Binary.scaled (b : Binary) : Nat × Interval × Nat :=
  let quarter := b.exponent - 2
  let scale := (-quarter).toNat
  let unit := Nat.pow 5 scale * Nat.pow 2 quarter.toNat
  let low := 4 * b.mantissa - if b.narrow then 1 else 2
  (4 * b.mantissa * unit, ⟨low * unit, (4 * b.mantissa + 2) * unit, b.mantissa % 2 = 0⟩, scale)

/-- The fewest digits that read back to the number. -/
def Binary.numeral (tie : Tie) (b : Binary) : Numeral :=
  let (v, interval, scale) := b.scaled
  let (d, k) := shortest interval tie v ((digits v).length - 1)
  Numeral.ofScaled d (k - scale)

end BoundSql.Decimal
