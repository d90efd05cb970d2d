import TagMarkup.Binary64.Printing

namespace TagMarkup

/-! The reader depends on the value of a quotient only, and rounds no value that a double has. -/

theorem roundDiv_mul_left {k : Nat} (hk : 0 < k) (n d : Nat) :
    roundDiv (k * n) (k * d) = roundDiv n d := by
  have hlt : 2 * (k * (n % d)) < k * d ↔ 2 * (n % d) < d := by
    rw [Nat.mul_left_comm]
    exact Nat.mul_lt_mul_left hk
  have heq : 2 * (k * (n % d)) = k * d ↔ 2 * (n % d) = d := by
    rw [Nat.mul_left_comm]
    exact Nat.mul_right_inj (Nat.ne_of_gt hk)
  simp only [roundDiv, Nat.mul_div_mul_left _ _ hk, Nat.mul_mod_mul_left, hlt, heq]

theorem roundDiv_mul_self (n : Nat) {d : Nat} (hd : 0 < d) : roundDiv (n * d) d = n := by
  simp [roundDiv, hd]

namespace Decimal

theorem denominator_pos (d : Decimal) : 0 < d.denominator :=
  Nat.pow_pos (by decide)

theorem numerator_zero (exponent : Int) : (⟨0, exponent⟩ : Decimal).numerator = 0 :=
  Nat.zero_mul _

end Decimal

namespace Binary64

theorem nearestMagnitude_mul_left {k : Nat} (hk : 0 < k) (n d : Nat) :
    nearestMagnitude (k * n) (k * d) = nearestMagnitude n d := by
  simp only [nearestMagnitude, Nat.shiftLeft_eq, Nat.mul_assoc, Nat.mul_div_mul_left _ _ hk,
    roundDiv_mul_left hk]

theorem nearestMagnitude_eq_of_mul_eq {n d n' d' : Nat} (hd : 0 < d) (hd' : 0 < d')
    (h : n * d' = n' * d) : nearestMagnitude n d = nearestMagnitude n' d' := by
  calc nearestMagnitude n d
      = nearestMagnitude (d' * n) (d' * d) := (nearestMagnitude_mul_left hd' n d).symm
    _ = nearestMagnitude (d * n') (d * d') := by
        rw [Nat.mul_comm d' n, h, Nat.mul_comm n' d, Nat.mul_comm d' d]
    _ = nearestMagnitude n' d' := nearestMagnitude_mul_left hd n' d'

theorem magnitudeOf_eq_of_mul_eq {a b : Decimal}
    (h : a.numerator * b.denominator = b.numerator * a.denominator) :
    magnitudeOf a = magnitudeOf b :=
  nearestMagnitude_eq_of_mul_eq a.denominator_pos b.denominator_pos h

theorem scale_eq (m : Nat) : scale m = m / 4503599627370496 - 1 := by
  rw [scale, Nat.shiftRight_eq_div_pow]

theorem significand_eq (m : Nat) :
    significand m = m - scale m * 4503599627370496 :=
  congrArg (m - ·) (Nat.shiftLeft_eq (scale m) 52)

theorem scale_shiftLeft_add_significand (m : Nat) : (scale m <<< 52) + significand m = m := by
  rw [significand_eq, Nat.shiftLeft_eq, scale_eq]
  omega

theorem significand_lt (m : Nat) : significand m < 9007199254740992 := by
  rw [significand_eq, scale_eq]
  omega

theorem le_significand {m : Nat} (h : scale m ≠ 0) : 4503599627370496 ≤ significand m := by
  rw [scale_eq] at h
  rw [significand_eq, scale_eq]
  omega

private theorem log2_shiftLeft {n : Nat} (hn : n ≠ 0) (s : Nat) :
    (n <<< s).log2 = n.log2 + s := by
  induction s with
  | zero => rfl
  | succ s ih =>
      have hs : n <<< s ≠ 0 := by
        rw [Nat.shiftLeft_eq]
        exact Nat.mul_ne_zero hn (Nat.ne_of_gt (Nat.two_pow_pos s))
      rw [Nat.shiftLeft_succ, Nat.log2_two_mul hs, ih]
      omega

/-- The last bit of a value stands where the reader cuts the value. -/
theorem log2_multiple_sub (m : Nat) : (multiple m).log2 - 52 = scale m := by
  have hlt := significand_lt m
  by_cases hscale : scale m = 0
  · have hlog : (significand m).log2 < 53 := by
      by_cases hzero : significand m = 0
      · simp [hzero]
      · exact (Nat.log2_lt hzero).mpr hlt
    simp only [multiple, hscale, Nat.shiftLeft_zero]
    omega
  · have hle := le_significand hscale
    have hne : significand m ≠ 0 := by omega
    have hlog : (significand m).log2 = 52 := by
      have hlower : 52 ≤ (significand m).log2 := (Nat.le_log2 hne).mpr hle
      have hupper : (significand m).log2 < 53 := (Nat.log2_lt hne).mpr hlt
      omega
    rw [multiple, log2_shiftLeft hne, hlog]
    omega

private theorem one_shiftLeft_pos (k : Nat) : 0 < 1 <<< k := by
  rw [Nat.one_shiftLeft]
  exact Nat.two_pow_pos k

private theorem roundDiv_multiple (m bits : Nat) :
    roundDiv (multiple m <<< bits) ((1 <<< bits) <<< scale m) = significand m := by
  have hpos : 0 < (1 <<< bits) <<< scale m := by
    rw [Nat.shiftLeft_eq]
    exact Nat.mul_pos (one_shiftLeft_pos bits) (Nat.two_pow_pos (scale m))
  have hshift : multiple m <<< bits = significand m * ((1 <<< bits) <<< scale m) := by
    simp only [multiple, Nat.shiftLeft_eq, Nat.one_mul]
    rw [Nat.mul_assoc, Nat.mul_comm (2 ^ bits)]
  rw [hshift, roundDiv_mul_self _ hpos]

theorem nearestMagnitude_multiple {m : Nat} (h : m < infinity) :
    nearestMagnitude (multiple m) (1 <<< 1074) = m := by
  have hquotient (n bits : Nat) : (n <<< bits) / (1 <<< bits) = n := by
    rw [Nat.shiftLeft_eq, Nat.one_shiftLeft, Nat.mul_div_cancel _ (Nat.two_pow_pos bits)]
  unfold nearestMagnitude
  simp only [hquotient, log2_multiple_sub, roundDiv_multiple, scale_shiftLeft_add_significand]
  exact Nat.min_eq_right (Nat.le_of_lt h)

theorem multiple_zero : multiple 0 = 0 := by
  rw [multiple, Nat.shiftLeft_eq]
  decide

theorem magnitudeOf_zero : magnitudeOf ⟨0, 0⟩ = 0 :=
  calc magnitudeOf ⟨0, 0⟩
      = nearestMagnitude (multiple 0) (1 <<< 1074) :=
        nearestMagnitude_eq_of_mul_eq Nat.one_pos (one_shiftLeft_pos 1074) (by
          rw [Decimal.numerator_zero, multiple_zero, Nat.zero_mul, Nat.zero_mul])
    _ = 0 := nearestMagnitude_multiple (by decide)

theorem magnitudeOf_fives (n k : Nat) :
    magnitudeOf ⟨n * Nat.pow 5 k, -(k : Int)⟩ = nearestMagnitude n (1 <<< k) := by
  have hten : Nat.pow 10 k = Nat.pow 5 k * (1 <<< k) := by
    rw [Nat.one_shiftLeft]
    exact Nat.mul_pow 5 2 k
  have hnumerator : Decimal.numerator ⟨n * Nat.pow 5 k, -(k : Int)⟩ = n * Nat.pow 5 k := by
    simp [Decimal.numerator]
  have hdenominator : Decimal.denominator ⟨n * Nat.pow 5 k, -(k : Int)⟩ = Nat.pow 10 k := by
    simp [Decimal.denominator]
  apply nearestMagnitude_eq_of_mul_eq (Decimal.denominator_pos _) (one_shiftLeft_pos k)
  rw [hnumerator, hdenominator, hten, Nat.mul_assoc]

theorem magnitudeOf_exactDecimal {m : Nat} (h : m < infinity) :
    magnitudeOf (exactDecimal m) = m := by
  have hmultiple := nearestMagnitude_multiple h
  unfold exactDecimal
  generalize hk : (1074 : Nat) = k at hmultiple ⊢
  have hexponent : (-1074 : Int) = -(k : Int) := by omega
  rw [hexponent, magnitudeOf_fives, hmultiple]

theorem magnitudeOf_of_neighbour? {m : Nat} {exponent : Int} {d : Decimal}
    (h : neighbour? m exponent = some d) : magnitudeOf d = m := by
  have hreads : readsBack m d = true := by
    unfold neighbour? at h
    dsimp only at h
    split at h
    · split at h <;> simp_all
    all_goals simp_all
  exact eq_of_beq hreads

theorem magnitudeOf_shortestAmong {m : Nat} (h : m < infinity) (grids : Nat) :
    magnitudeOf (shortestAmong m grids) = m := by
  induction grids with
  | zero => exact magnitudeOf_exactDecimal h
  | succ grids ih =>
      unfold shortestAmong
      cases hneighbour : neighbour? m (grids - 1074) with
      | none => exact ih
      | some d => exact magnitudeOf_of_neighbour? hneighbour

theorem magnitudeOf_shortest {m : Nat} (h : m < infinity) : magnitudeOf (shortest m) = m := by
  unfold shortest
  split
  · rename_i hzero
    rw [hzero]
    exact magnitudeOf_zero
  · exact magnitudeOf_shortestAmong h _

theorem ofDecimal_eq_self {v : Binary64} {d : Decimal}
    (h : magnitudeOf d = v.magnitude.toNat) : ofDecimal v.negative d = v := by
  unfold magnitudeOf at h
  simp [ofDecimal, nearest, h]

end Binary64

end TagMarkup
