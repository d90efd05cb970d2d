import TagMarkup.Text

namespace TagMarkup

/-- The number `digits * 10 ^ exponent`. -/
structure Decimal where
  digits : Nat
  exponent : Int
deriving DecidableEq

namespace Decimal

def numerator (d : Decimal) : Nat :=
  d.digits * Nat.pow 10 d.exponent.toNat

def denominator (d : Decimal) : Nat :=
  Nat.pow 10 (-d.exponent).toNat

/-- The number of digits after the point that the exponent asks for. -/
def places (d : Decimal) : Nat :=
  (-d.exponent).toNat

/-- The whole part, a point, and at least one digit after it. -/
def positional (d : Decimal) : Text :=
  let digits := Text.ofNat d.digits
  if d.places = 0 then digits ++ List.replicate d.exponent.toNat '0' ++ ['.', '0']
  else
    let padded := digits.leftpad (d.places + 1) '0'
    let whole := padded.length - d.places
    padded.take whole ++ '.' :: padded.drop whole

/-- One digit, the other digits after a point if there are any, and the power of ten. -/
def scientific (d : Decimal) : Text :=
  let digits := Text.ofNat d.digits
  let fraction := digits.drop 1
  digits.take 1 ++ (if fraction.isEmpty then [] else '.' :: fraction) ++
    'e' :: Text.ofInt (digits.length - 1 + d.exponent)

end Decimal

end TagMarkup
