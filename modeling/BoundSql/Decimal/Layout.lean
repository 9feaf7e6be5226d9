import BoundSql.Decimal.Binary

/-!
# Number layout

How a format writes a floating-point number once its digits are known. A format states its choices as one
`Layout`.
-/

namespace BoundSql.Decimal

structure Layout where
  tie : Tie
  /-- The decimal exponents that are written with the point in place. -/
  positional : Int → Bool
  /-- Whole numbers in positional notation end in `.0`. -/
  markWhole : Bool
  nan : String
  infinite : Bool → String

/-- The digits with the point after the one of exponent zero. -/
def Numeral.positional (markWhole : Bool) (d : Numeral) : List Char :=
  if d.exponent < 0 then
    '0' :: '.' :: (List.replicate (-d.exponent - 1).toNat '0' ++ d.digits)
  else
    let whole := d.exponent.toNat + 1
    if d.digits.length ≤ whole then
      d.digits ++ List.replicate (whole - d.digits.length) '0' ++ if markWhole then ['.', '0'] else []
    else
      d.digits.take whole ++ '.' :: d.digits.drop whole

/-- The point after the first digit, and a signed exponent. -/
def Numeral.scientific (d : Numeral) : List Char :=
  let tail := d.digits.drop 1
  d.digits.take 1 ++ (if tail.isEmpty then [] else '.' :: tail) ++
    'e' :: (if d.exponent < 0 then '-' else '+') :: Nat.toDigits 10 d.exponent.natAbs

def Layout.magnitude (l : Layout) (b : Binary) : List Char :=
  let d := b.numeral l.tie
  if l.positional d.exponent then d.positional l.markWhole else d.scientific

def Layout.write (l : Layout) : Reading → String
  | .nan => l.nan
  | .infinite negative => l.infinite negative
  | .finite negative b => String.ofList ((if negative then ['-'] else []) ++ l.magnitude b)

def Layout.float (l : Layout) (x : Float) : String :=
  l.write (.ofBits .double x.toBits.toNat)

def Layout.single (l : Layout) (x : Float32) : String :=
  l.write (.ofBits .single x.toBits.toNat)

end BoundSql.Decimal
