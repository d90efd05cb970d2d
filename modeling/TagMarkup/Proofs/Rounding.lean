import Mathlib
import TagMarkup.Proofs.Binary64

namespace TagMarkup

/-- How far a quotient lies from a whole number, in units of one over its denominator. -/
def distance (n d k : Nat) : Nat :=
  ((n : Int) - (d * k : Nat)).natAbs

/-- No whole number is nearer to a quotient than the rounded one, and another is as near only if the
rounded one is even. -/
theorem distance_roundDiv {n d : Nat} (hd : 0 < d) (k : Nat) :
    distance n d (roundDiv n d) ≤ distance n d k ∧
      (distance n d k = distance n d (roundDiv n d) → k ≠ roundDiv n d →
        roundDiv n d % 2 = 0) := by
  have hdiv : d * (n / d) + n % d = n := Nat.div_add_mod n d
  have hmod : n % d < d := Nat.mod_lt n hd
  have hnext : d * (n / d + 1) = d * (n / d) + d := Nat.mul_succ d (n / d)
  have hside : k ≤ n / d ∧ d * k ≤ d * (n / d) ∨ n / d + 1 ≤ k ∧ d * (n / d + 1) ≤ d * k := by
    obtain hlt | hge := Nat.lt_or_ge (n / d) k
    · exact .inr ⟨hlt, Nat.mul_le_mul_left d hlt⟩
    · exact .inl ⟨hge, Nat.mul_le_mul_left d hge⟩
  have hbelow (h : k < n / d) : d * k < d * (n / d) := Nat.mul_lt_mul_of_pos_left h hd
  have habove (h : n / d + 1 < k) : d * (n / d + 1) < d * k := Nat.mul_lt_mul_of_pos_left h hd
  unfold distance roundDiv
  split
  all_goals
    generalize d * (n / d + 1) = next at *
    generalize d * (n / d) = whole at *
    generalize d * k = other at *
    omega

theorem roundDiv_bounds (n d : Nat) : n / d ≤ roundDiv n d ∧ roundDiv n d ≤ n / d + 1 := by
  unfold roundDiv
  split <;> omega

namespace Binary64

theorem multiple_eq (m : Nat) : multiple m = significand m * 2 ^ scale m :=
  Nat.shiftLeft_eq _ _

/-- Where a significand stands on the scale. A carry out of its 53 bits leads to the first magnitude
of the next part, which is coarser. -/
theorem multiple_add {s n : Nat} (hn : n ≤ 9007199254740992)
    (hnormal : s ≠ 0 → 4503599627370496 ≤ n) : multiple ((s <<< 52) + n) = n * 2 ^ s := by
  rw [multiple_eq, significand_eq, Nat.shiftLeft_eq]
  obtain hlt | rfl := Nat.lt_or_eq_of_le hn
  · have hscale : scale (s * 2 ^ 52 + n) = s := by
      rw [scale_eq]
      omega
    rw [hscale]
    congr 1
    omega
  · have hscale : scale (s * 2 ^ 52 + 9007199254740992) = s + 1 := by
      rw [scale_eq]
      omega
    have hrest : s * 2 ^ 52 + 9007199254740992 - (s + 1) * 4503599627370496 = 4503599627370496 := by
      omega
    rw [hscale, hrest]
    ring

theorem multiple_strictMono : StrictMono multiple := by
  apply strictMono_nat_of_lt_succ
  intro m
  have hlt := significand_lt m
  have hnormal (h : scale m ≠ 0) : 4503599627370496 ≤ significand m + 1 :=
    Nat.le_succ_of_le (le_significand h)
  have hsucc : m + 1 = (scale m <<< 52) + (significand m + 1) := by
    have := scale_shiftLeft_add_significand m
    omega
  rw [hsucc, multiple_add (by omega) hnormal, multiple_eq]
  exact Nat.mul_lt_mul_of_pos_right (Nat.lt_succ_self _) (Nat.two_pow_pos _)

/-- The magnitude for a quotient of the unit of the scale, as though there were no largest one. -/
def unboundedMagnitude (n d : Nat) : Nat :=
  let e := (n / d).log2 - 52
  (e <<< 52) + roundDiv n (d <<< e)

theorem nearestMagnitude_eq (n d : Nat) :
    nearestMagnitude n d = min infinity (unboundedMagnitude (n <<< 1074) d) :=
  rfl

/-- The bits of a whole number above the place where its reader cuts it. -/
theorem quotient_bounds (q : Nat) :
    q / 2 ^ (q.log2 - 52) < 9007199254740992 ∧
      (q.log2 - 52 ≠ 0 → 4503599627370496 ≤ q / 2 ^ (q.log2 - 52)) := by
  constructor
  · rw [Nat.div_lt_iff_lt_mul (Nat.two_pow_pos _)]
    calc q < 2 ^ (q.log2 + 1) := Nat.lt_log2_self
      _ ≤ 2 ^ (53 + (q.log2 - 52)) := Nat.pow_le_pow_right (by decide) (by omega)
      _ = 9007199254740992 * 2 ^ (q.log2 - 52) := by rw [pow_add]; rfl
  · intro hne
    have hq : q ≠ 0 := by
      rintro rfl
      simp at hne
    rw [Nat.le_div_iff_mul_le (Nat.two_pow_pos _)]
    calc 4503599627370496 * 2 ^ (q.log2 - 52)
        = 2 ^ (52 + (q.log2 - 52)) := by rw [pow_add]; rfl
      _ = 2 ^ q.log2 := by congr 1; omega
      _ ≤ q := Nat.log2_self_le hq

/-- Magnitudes of coarser parts of the scale stand for a whole number of the steps of a finer one. -/
theorem multiple_eq_steps {e k : Nat} (h : e ≤ scale k) :
    multiple k = significand k * 2 ^ (scale k - e) * 2 ^ e := by
  rw [multiple_eq, Nat.mul_assoc, ← pow_add, Nat.sub_add_cancel h]

/-- Magnitudes of finer parts of the scale stand for less than the first number of a coarser one. -/
theorem multiple_lt_of_scale_lt {e k : Nat} (h : scale k < e) :
    multiple k < 4503599627370496 * 2 ^ e :=
  calc multiple k = significand k * 2 ^ scale k := multiple_eq k
    _ < 9007199254740992 * 2 ^ scale k :=
      Nat.mul_lt_mul_of_pos_right (significand_lt k) (Nat.two_pow_pos _)
    _ = 4503599627370496 * 2 ^ (scale k + 1) := by ring
    _ ≤ 4503599627370496 * 2 ^ e :=
      Nat.mul_le_mul_left _ (Nat.pow_le_pow_right (by decide) h)

/-- No magnitude is nearer to a quotient than the one read for it, and another is as near only if
the one read for it is even. -/
theorem distance_unboundedMagnitude {n d : Nat} (hd : 0 < d) (k : Nat) :
    distance n d (multiple (unboundedMagnitude n d)) ≤ distance n d (multiple k) ∧
      (distance n d (multiple k) = distance n d (multiple (unboundedMagnitude n d)) →
        k ≠ unboundedMagnitude n d → unboundedMagnitude n d % 2 = 0) := by
  have hscaled (e j : Nat) : distance n d (j * 2 ^ e) = distance n (d * 2 ^ e) j := by
    rw [distance, distance, Nat.mul_assoc, Nat.mul_comm j]
  obtain ⟨hlt, hnormal⟩ := quotient_bounds (n / d)
  unfold unboundedMagnitude
  simp only [Nat.shiftLeft_eq d]
  generalize (n / d).log2 - 52 = e at *
  have hpos : 0 < d * 2 ^ e := Nat.mul_pos hd (Nat.two_pow_pos e)
  rw [Nat.div_div_eq_div_mul] at hlt hnormal
  have hbounds := roundDiv_bounds n (d * 2 ^ e)
  have hround := @distance_roundDiv n _ hpos
  generalize roundDiv n (d * 2 ^ e) = r at *
  have hvalue : multiple ((e <<< 52) + r) = r * 2 ^ e := multiple_add (by omega) (by omega)
  have hparity : ((e <<< 52) + r) % 2 = r % 2 := by
    rw [Nat.shiftLeft_eq]
    omega
  rw [hvalue, hparity, hscaled]
  by_cases hscale : e ≤ scale k
  · have hsteps := multiple_eq_steps hscale
    generalize significand k * 2 ^ (scale k - e) = j at hsteps
    rw [hsteps, hscaled]
    refine ⟨(hround j).1, fun heq hne => (hround j).2 heq ?_⟩
    rintro rfl
    exact hne (multiple_strictMono.injective (hsteps.trans hvalue.symm))
  · have hbelow : d * multiple k < d * (4503599627370496 * 2 ^ e) :=
      Nat.mul_lt_mul_of_pos_left (multiple_lt_of_scale_lt (by omega)) hd
    have hstart : d * (4503599627370496 * 2 ^ e) ≤ n := by
      have hle := (Nat.le_div_iff_mul_le hpos).mp (hnormal (by omega))
      rwa [Nat.mul_left_comm] at hle
    have hfarther : distance n d (4503599627370496 * 2 ^ e) < distance n d (multiple k) := by
      unfold distance
      omega
    have hnearest := (hround 4503599627370496).1
    rw [← hscaled e 4503599627370496] at hnearest
    exact ⟨by omega, by omega⟩

/-- The value of a finite magnitude. The value of infinity is the power of two that comes after the
largest finite one. -/
def absValue (magnitude : Nat) : ℚ :=
  multiple magnitude / 2 ^ 1074

/-- A magnitude up to infinity that is as near to a value as any, and even if another one is as
near. -/
structure IsNearest (value : ℚ) (magnitude : Nat) : Prop where
  le_infinity : magnitude ≤ infinity
  closest : ∀ m ≤ infinity, |value - absValue magnitude| ≤ |value - absValue m|
  even : ∀ m ≤ infinity, m ≠ magnitude → |value - absValue m| = |value - absValue magnitude| →
    Even magnitude

theorem absValue_strictMono : StrictMono absValue := by
  intro m k h
  have hlt : (multiple m : ℚ) < multiple k := Nat.cast_lt.mpr (multiple_strictMono h)
  exact div_lt_div_of_pos_right hlt (by positivity)

theorem abs_sub_absValue {n d : Nat} (hd : 0 < d) (m : Nat) :
    |(n / d : ℚ) - absValue m| = distance (n <<< 1074) d (multiple m) / (d * 2 ^ 1074) := by
  have hpos : (0 : ℚ) < d * 2 ^ 1074 := by positivity
  have hd' : (d : ℚ) ≠ 0 := by positivity
  have hunit : (2 ^ 1074 : ℚ) ≠ 0 := by positivity
  rw [absValue, div_sub_div _ _ hd' hunit, abs_div, abs_of_pos hpos, distance, Nat.cast_natAbs,
    Nat.shiftLeft_eq, Int.cast_abs, Int.cast_sub, Int.cast_natCast, Int.cast_natCast]
  simp only [Nat.cast_mul, Nat.cast_pow, Nat.cast_ofNat]

theorem abs_sub_absValue_le_iff {n d : Nat} (hd : 0 < d) {m k : Nat} :
    |(n / d : ℚ) - absValue m| ≤ |(n / d : ℚ) - absValue k| ↔
      distance (n <<< 1074) d (multiple m) ≤ distance (n <<< 1074) d (multiple k) := by
  have hpos : (0 : ℚ) < d * 2 ^ 1074 := by positivity
  rw [abs_sub_absValue hd, abs_sub_absValue hd, div_le_div_iff_of_pos_right hpos, Nat.cast_le]

theorem abs_sub_absValue_eq_iff {n d : Nat} (hd : 0 < d) {m k : Nat} :
    |(n / d : ℚ) - absValue m| = |(n / d : ℚ) - absValue k| ↔
      distance (n <<< 1074) d (multiple m) = distance (n <<< 1074) d (multiple k) := by
  rw [le_antisymm_iff, le_antisymm_iff, abs_sub_absValue_le_iff hd, abs_sub_absValue_le_iff hd]

theorem isNearest_nearestMagnitude {n d : Nat} (hd : 0 < d) :
    IsNearest (n / d) (nearestMagnitude n d) := by
  have hnearest := @distance_unboundedMagnitude (n <<< 1074) d hd
  rw [nearestMagnitude_eq]
  generalize unboundedMagnitude (n <<< 1074) d = m at *
  obtain hle | hlt := le_or_gt m infinity
  · rw [Nat.min_eq_right hle]
    refine ⟨hle, fun k _ => (abs_sub_absValue_le_iff hd).mpr (hnearest k).1, ?_⟩
    intro k _ hne heq
    exact Nat.even_iff.mpr ((hnearest k).2 ((abs_sub_absValue_eq_iff hd).mp heq) hne)
  · rw [Nat.min_eq_left hlt.le]
    refine ⟨le_rfl, fun k hk => (abs_sub_absValue_le_iff hd).mpr ?_, fun k _ _ _ => ?_⟩
    · have hfirst := (hnearest infinity).1
      have hpast := Nat.mul_lt_mul_of_pos_left (multiple_strictMono hlt) hd
      have hbefore := Nat.mul_le_mul_left d (multiple_strictMono.monotone hk)
      unfold distance at *
      omega
    · decide

theorem IsNearest.unique {value : ℚ} {m k : Nat} (hm : IsNearest value m)
    (hk : IsNearest value k) : m = k := by
  wlog hlt : m < k generalizing m k
  · obtain heq | hgt := Nat.eq_or_lt_of_not_lt hlt
    · exact heq
    · exact (this hk hm hgt).symm
  exfalso
  have heq := le_antisymm (hm.closest k hk.le_infinity) (hk.closest m hm.le_infinity)
  have hmeven := Nat.even_iff.mp (hm.even k hk.le_infinity hlt.ne' heq.symm)
  have hkeven := Nat.even_iff.mp (hk.even m hm.le_infinity hlt.ne heq)
  have hbetween : m + 1 < k := by omega
  have hnearer := hm.closest (m + 1) (hbetween.le.trans hk.le_infinity)
  have hleft := absValue_strictMono (Nat.lt_succ_self m)
  have hright := absValue_strictMono hbetween
  obtain hsame | hmiddle := abs_eq_abs.mp heq
  · linarith
  · have hinside : |value - absValue (m + 1)| < value - absValue m :=
      abs_lt.mpr ⟨by linarith, by linarith⟩
    have hle := le_abs_self (value - absValue m)
    linarith

theorem nearestMagnitude_eq_iff {n d : Nat} (hd : 0 < d) {m : Nat} :
    nearestMagnitude n d = m ↔ IsNearest (n / d) m := by
  constructor
  · rintro rfl
    exact isNearest_nearestMagnitude hd
  · exact (isNearest_nearestMagnitude hd).unique

end Binary64

end TagMarkup
