import TagMarkup.Text

namespace TagMarkup

/-- The whole number nearest to `n / d`; halves go to the even neighbour. -/
def roundDiv (n d : Nat) : Nat :=
  if 2 * (n % d) < d ∨ 2 * (n % d) = d ∧ n / d % 2 = 0 then n / d else n / d + 1

/-- The magnitude, the bits below the sign, grows with the absolute value: zero and the subnormal
numbers, the normal numbers, infinity, and then the values that are not numbers. -/
structure Binary64 where
  negative : Bool
  magnitude : BitVec 63
deriving DecidableEq

namespace Binary64

/-- The magnitude of infinity: the largest exponent field over an empty fraction. -/
def infinity : Nat :=
  0x7FF <<< 52

def isFinite (v : Binary64) : Bool :=
  v.magnitude.toNat < infinity

def isNaN (v : Binary64) : Bool :=
  infinity < v.magnitude.toNat

/-- The sign in bit 63 and the magnitude below it. -/
def ofBits (bits : Nat) : Binary64 :=
  ⟨bits.testBit 63, .ofNat 63 bits⟩

def toBits (v : Binary64) : Nat :=
  (v.negative.toNat <<< 63) + v.magnitude.toNat

/-- Position of the last bit of a finite magnitude, counted from the last bit of the subnormal
numbers. The first two values of the exponent field share position zero. -/
def scale (magnitude : Nat) : Nat :=
  (magnitude >>> 52) - 1

/-- The bits of a finite magnitude from its first to its last, as a whole number. -/
def significand (magnitude : Nat) : Nat :=
  magnitude - (scale magnitude <<< 52)

/-- The value of a finite magnitude as a multiple of `2 ^ -1074`, the least positive one. -/
def multiple (magnitude : Nat) : Nat :=
  significand magnitude <<< scale magnitude

/-- The value of a finite magnitude is a quotient of this number and the next. At most one of them
has a power of two for the scale. -/
def numerator (magnitude : Nat) : Nat :=
  significand magnitude <<< (scale magnitude - 1074)

def denominator (magnitude : Nat) : Nat :=
  1 <<< (1074 - scale magnitude)

/-- The magnitude nearest to `n / d`. The quotient is cut at 53 bits, or at the last bit of the
subnormal numbers where that comes first; a carry out of the 53 bits moves on to the next exponent
by itself. What lies beyond the largest finite magnitude is infinite. -/
def nearestMagnitude (n d : Nat) : Nat :=
  let e := ((n <<< 1074) / d).log2 - 52
  min infinity ((e <<< 52) + roundDiv (n <<< 1074) (d <<< e))

theorem nearestMagnitude_le_infinity (n d : Nat) : nearestMagnitude n d ≤ infinity :=
  Nat.min_le_left _ _

def nearest (negative : Bool) (n d : Nat) : Binary64 :=
  ⟨negative, .ofNat 63 (nearestMagnitude n d)⟩

theorem nearest_magnitude (negative : Bool) (n d : Nat) :
    (nearest negative n d).magnitude.toNat = nearestMagnitude n d := by
  have hle := nearestMagnitude_le_infinity n d
  have hlt : infinity < 9223372036854775808 := by decide
  simp only [nearest, BitVec.toNat_ofNat]
  exact Nat.mod_eq_of_lt (Nat.lt_of_le_of_lt hle hlt)

end Binary64

end TagMarkup
