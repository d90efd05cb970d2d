import TagMarkup.Binary64
import TagMarkup.Decimal

namespace TagMarkup

namespace Binary64

def magnitudeOf (d : Decimal) : Nat :=
  nearestMagnitude d.numerator d.denominator

def ofDecimal (negative : Bool) (d : Decimal) : Binary64 :=
  nearest negative d.numerator d.denominator

def readsBack (magnitude : Nat) (d : Decimal) : Bool :=
  magnitudeOf d == magnitude

/-- The neighbour of a value among the multiples of a power of ten that reads back, if there is one:
the nearer of two, and the upper one when both are equally near. -/
def neighbour? (magnitude : Nat) (exponent : Int) : Option Decimal :=
  let n := numerator magnitude * Nat.pow 10 (-exponent).toNat
  let d := denominator magnitude * Nat.pow 10 exponent.toNat
  let below : Decimal := ⟨n / d, exponent⟩
  let above : Decimal := ⟨n / d + 1, exponent⟩
  match readsBack magnitude below, readsBack magnitude above with
  | true, true => some (if 2 * (n % d) < d then below else above)
  | true, false => some below
  | false, true => some above
  | false, false => none

/-- The value itself, since `2 ^ -1074` is `5 ^ 1074 * 10 ^ -1074`. -/
def exactDecimal (magnitude : Nat) : Decimal :=
  ⟨multiple magnitude * Nat.pow 5 1074, -1074⟩

/-- Tries a number of grids of multiples of a power of ten, from coarse to fine. The last of them is
that of `10 ^ -1074`. -/
def shortestAmong (magnitude : Nat) : Nat → Decimal
  | 0 => exactDecimal magnitude
  | grids + 1 =>
      (neighbour? magnitude (grids - 1074)).getD (shortestAmong magnitude grids)

/-- Enough grids to begin with one whose step is larger than the value. In units of `10 ^ -1074` the
value is its multiple of `2 ^ -1074` times `5 ^ 1074`, a number of 2494 bits, and a number of `b`
bits has at most `b * 0.30103 + 1` digits. -/
def gridCount (magnitude : Nat) : Nat :=
  ((significand magnitude).log2 + 1 + scale magnitude + 2494) * 30103 / 100000 + 1

/-- The decimal with the fewest digits that reads back as a finite magnitude. -/
def shortest (magnitude : Nat) : Decimal :=
  if magnitude = 0 then ⟨0, 0⟩ else shortestAmong magnitude (gridCount magnitude)

/-- Sign and digits, where the layout of the digits is given. The sign of a value that is not a
number is not shown. -/
def renderWith (layout : Decimal → Text) (v : Binary64) : Text :=
  if v.isNaN then "NaN"
  else
    let digits : Text := if v.isFinite then layout (shortest v.magnitude.toNat) else "inf"
    if v.negative then '-' :: digits else digits

/-- Plain text: never an exponent, always a point. -/
def render (v : Binary64) : Text :=
  v.renderWith Decimal.positional

/-- Whether the general layout has an exponent: from `10 ^ 16` on and, zero apart, below
`10 ^ -4`. -/
def wantsExponent (magnitude : Nat) : Bool :=
  magnitudeOf ⟨1, 16⟩ ≤ magnitude || (0 < magnitude && magnitude < magnitudeOf ⟨1, -4⟩)

def renderGeneral (v : Binary64) : Text :=
  v.renderWith (if wantsExponent v.magnitude.toNat then Decimal.scientific else Decimal.positional)

end Binary64

end TagMarkup
