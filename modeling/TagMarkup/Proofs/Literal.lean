import Mathlib
import TagMarkup.Element
import TagMarkup.Proofs.Number
import TagMarkup.Proofs.Rounding

namespace TagMarkup

namespace Text

/-- The whole number that digits stand for: each digit times the power of ten of its place. -/
def placeValue (digits : Text) : Nat :=
  Nat.ofDigits 10 (digits.reverse.map fun c => c.toNat - '0'.toNat)

/-- Digits with an optional minus sign, and the integer that they stand for. -/
inductive WritesInteger : Text → Int → Prop
  | unsigned {digits : Text} (hne : digits ≠ []) (hdigits : ∀ c ∈ digits, c.isDigit = true) :
      WritesInteger digits (placeValue digits)
  | signed {digits : Text} (hne : digits ≠ []) (hdigits : ∀ c ∈ digits, c.isDigit = true) :
      WritesInteger ('-' :: digits) (-placeValue digits)

/-- The value of digits before and after a point. -/
def pointValue (whole fraction : Text) : ℚ :=
  placeValue whole + placeValue fraction / 10 ^ fraction.length

/-- Digits with an optional minus sign, a point, and digits again, of which there may be none: the
sign, and the value without it. -/
inductive WritesDecimal : Text → Bool → ℚ → Prop
  | unsigned {whole fraction : Text} (hne : whole ≠ [])
      (hdigits : ∀ c ∈ whole ++ fraction, c.isDigit = true) :
      WritesDecimal (whole ++ '.' :: fraction) false (pointValue whole fraction)
  | signed {whole fraction : Text} (hne : whole ≠ [])
      (hdigits : ∀ c ∈ whole ++ fraction, c.isDigit = true) :
      WritesDecimal ('-' :: (whole ++ '.' :: fraction)) true (pointValue whole fraction)

theorem placeValue_cons (c : Char) (digits : Text) :
    placeValue (c :: digits) = 10 ^ digits.length * (c.toNat - '0'.toNat) + placeValue digits := by
  simp [placeValue, Nat.ofDigits_append, Nat.add_comm]

theorem ofDigitChars_eq (digits : Text) (init : Nat) :
    Nat.ofDigitChars 10 digits init = 10 ^ digits.length * init + placeValue digits := by
  induction digits generalizing init with
  | nil => simp [placeValue]
  | cons c digits ih =>
      rw [Nat.ofDigitChars_cons, ih, placeValue_cons, List.length_cons]
      ring

theorem ofDigitChars_zero (digits : Text) :
    Nat.ofDigitChars 10 digits 0 = placeValue digits := by
  rw [ofDigitChars_eq, Nat.mul_zero, Nat.zero_add]

theorem placeValue_append (front back : Text) :
    placeValue (front ++ back) = 10 ^ back.length * placeValue front + placeValue back := by
  rw [← ofDigitChars_zero, Nat.ofDigitChars_append, ofDigitChars_eq, ofDigitChars_zero]

end Text

open Text

namespace Decimal

theorem ofDigits_value (whole fraction : Text) :
    ((ofDigits whole fraction).numerator / (ofDigits whole fraction).denominator : ℚ) =
      pointValue whole fraction := by
  have hpos : (10 ^ fraction.length : ℚ) ≠ 0 := by positivity
  have hnumerator : (ofDigits whole fraction).numerator = placeValue (whole ++ fraction) := by
    simp [ofDigits, numerator, ofDigitChars_zero]
  have hdenominator : (ofDigits whole fraction).denominator = 10 ^ fraction.length := by
    simp [ofDigits, denominator]
  rw [hnumerator, hdenominator, placeValue_append, pointValue]
  push_cast
  rw [add_div, mul_div_cancel_left₀ _ hpos]

theorem magnitudeOf_ofDigits_eq_iff {whole fraction : Text} {m : Nat} :
    Binary64.magnitudeOf (ofDigits whole fraction) = m ↔
      Binary64.IsNearest (pointValue whole fraction) m := by
  rw [← ofDigits_value]
  exact Binary64.nearestMagnitude_eq_iff (denominator_pos _)

end Decimal

namespace Number

/-- The integer of 64 bits that a text stands for, if it stands for one. -/
def IsIntegerLiteral (t : Text) (v : Int64) : Prop :=
  ∃ i, WritesInteger t i ∧ -2 ^ 63 ≤ i ∧ i ≤ 2 ^ 63 - 1 ∧ v.toInt = i

/-- The finite double nearest to the value that a text stands for, if there is one. -/
def IsDoubleLiteral (t : Text) (x : Binary64) : Prop :=
  ∃ value, WritesDecimal t x.negative value ∧
    Binary64.IsNearest value x.magnitude.toNat ∧ x.isFinite = true

theorem integer?_eq_some_iff {negative : Bool} {digits : Text} {n : Number} :
    integer? negative digits = some n ↔
      ∃ v : Int64, n = .integer v ∧
        v.toInt = if negative then -(placeValue digits : Int) else placeValue digits := by
  unfold integer?
  rw [ofDigitChars_zero]
  dsimp only
  generalize (if negative then -(placeValue digits : Int) else placeValue digits) = i
  constructor
  · intro h
    obtain ⟨⟨hmin, hmax⟩, hvalue⟩ := Option.ite_none_right_eq_some.mp h
    refine ⟨.ofInt i, (Option.some.inj hvalue).symm, Int64.toInt_ofInt_of_le hmin ?_⟩
    exact Int.lt_of_le_of_lt hmax (by decide)
  · rintro ⟨v, rfl, rfl⟩
    rw [Int64.ofInt_toInt]
    exact if_pos ⟨Int64.minValue_le_toInt v, Int64.toInt_le v⟩

theorem double?_eq_some_iff {negative : Bool} {whole fraction : Text} {n : Number} :
    double? negative whole fraction = some n ↔
      ∃ x : Binary64, n = .double x ∧ x.negative = negative ∧
        Binary64.IsNearest (pointValue whole fraction) x.magnitude.toNat ∧ x.isFinite = true := by
  change (if (Binary64.ofDecimal negative (Decimal.ofDigits whole fraction)).isFinite = true then
    some (double (Binary64.ofDecimal negative (Decimal.ofDigits whole fraction))) else none) =
      some n ↔ _
  constructor
  · intro h
    obtain ⟨hfinite, hvalue⟩ := Option.ite_none_right_eq_some.mp h
    refine ⟨_, (Option.some.inj hvalue).symm, rfl, ?_, hfinite⟩
    rw [← Decimal.magnitudeOf_ofDigits_eq_iff]
    exact (Binary64.nearest_magnitude negative _ _).symm
  · rintro ⟨x, rfl, rfl, hnearest, hfinite⟩
    rw [Binary64.ofDecimal_eq_self (Decimal.magnitudeOf_ofDigits_eq_iff.mpr hnearest)]
    exact if_pos hfinite

theorem parse?_of_digits {whole : Text} (hne : whole ≠ [])
    (h : ∀ c ∈ whole, c.isDigit = true) (rest : Text) :
    parse? (whole ++ rest) = unsigned? false (whole ++ rest) := by
  obtain ⟨c, whole, rfl⟩ := List.exists_cons_of_ne_nil hne
  exact parse?_of_digit (h c List.mem_cons_self) _

theorem parse?_of_isIntegerLiteral {t : Text} {v : Int64} (h : IsIntegerLiteral t v) :
    parse? t = some (.integer v) := by
  obtain ⟨i, hwrites, -, -, hvalue⟩ := h
  cases hwrites with
  | @unsigned digits hne hdigits =>
      have hparse := parse?_of_digits hne hdigits []
      rw [List.append_nil] at hparse
      rw [hparse, unsigned?_digits false hne hdigits]
      exact integer?_eq_some_iff.mpr ⟨v, rfl, hvalue⟩
  | @signed digits hne hdigits =>
      have hparse : parse? ('-' :: digits) = unsigned? true digits := rfl
      rw [hparse, unsigned?_digits true hne hdigits]
      exact integer?_eq_some_iff.mpr ⟨v, rfl, hvalue⟩

theorem parse?_of_isDoubleLiteral {t : Text} {x : Binary64} (h : IsDoubleLiteral t x) :
    parse? t = some (.double x) := by
  obtain ⟨value, hwrites, hnearest, hfinite⟩ := h
  generalize hnegative : x.negative = negative at hwrites
  have hwhole {whole fraction : Text} (hdigits : ∀ c ∈ whole ++ fraction, c.isDigit = true) :
      ∀ c ∈ whole, c.isDigit = true :=
    fun c hc => hdigits c (List.mem_append_left _ hc)
  cases hwrites with
  | unsigned hne hdigits =>
      rw [parse?_of_digits hne (hwhole hdigits), unsigned?_point false hne hdigits]
      exact double?_eq_some_iff.mpr ⟨x, rfl, hnegative, hnearest, hfinite⟩
  | @signed whole fraction hne hdigits =>
      have hparse : parse? ('-' :: (whole ++ '.' :: fraction)) =
        unsigned? true (whole ++ '.' :: fraction) := rfl
      rw [hparse, unsigned?_point true hne hdigits]
      exact double?_eq_some_iff.mpr ⟨x, rfl, hnegative, hnearest, hfinite⟩

theorem isLiteral_of_parse? {t : Text} {n : Number} (h : parse? t = some n) :
    (∃ v, n = .integer v ∧ IsIntegerLiteral t v) ∨ ∃ x, n = .double x ∧ IsDoubleLiteral t x := by
  obtain ⟨negative, u, rfl, hunsigned⟩ := parse?_eq_some h
  obtain ⟨whole, hne, hwhole, ⟨rfl, hread⟩ | ⟨fraction, hfraction, rfl, hread⟩⟩ :=
    unsigned?_eq_some hunsigned
  · obtain ⟨v, rfl, hvalue⟩ := integer?_eq_some_iff.mp hread
    have hmin := Int64.minValue_le_toInt v
    have hmax := Int64.toInt_le v
    refine .inl ⟨v, rfl, v.toInt, ?_, hmin, hmax, rfl⟩
    rw [hvalue]
    cases negative with
    | false => exact .unsigned hne hwhole
    | true => exact .signed hne hwhole
  · obtain ⟨x, rfl, rfl, hnearest, hfinite⟩ := double?_eq_some_iff.mp hread
    have hdigits := List.forall_mem_append.mpr ⟨hwhole, hfraction⟩
    refine .inr ⟨x, rfl, _, ?_, hnearest, hfinite⟩
    cases x.negative with
    | false => exact .unsigned hne hdigits
    | true => exact .signed hne hdigits

theorem parse?_eq_integer_iff {t : Text} {v : Int64} :
    parse? t = some (.integer v) ↔ IsIntegerLiteral t v := by
  refine ⟨fun h => ?_, parse?_of_isIntegerLiteral⟩
  obtain ⟨v', heq, hliteral⟩ | ⟨x, heq, -⟩ := isLiteral_of_parse? h
  · cases heq
    exact hliteral
  · cases heq

example : parse? "0009223372036854775807".toList = some (.integer Int64.maxValue) ∧
    parse? "9223372036854775808".toList = none ∧
    parse? "-9223372036854775808".toList = some (.integer Int64.minValue) := by
  decide

theorem parse?_eq_double_iff {t : Text} {x : Binary64} :
    parse? t = some (.double x) ↔ IsDoubleLiteral t x := by
  refine ⟨fun h => ?_, parse?_of_isDoubleLiteral⟩
  obtain ⟨v, heq, -⟩ | ⟨x', heq, hliteral⟩ := isLiteral_of_parse? h
  · cases heq
  · cases heq
    exact hliteral

theorem parse?_eq_none_iff {t : Text} :
    parse? t = none ↔ (∀ v, ¬IsIntegerLiteral t v) ∧ ∀ x, ¬IsDoubleLiteral t x := by
  constructor
  · intro h
    refine ⟨fun v hliteral => ?_, fun x hliteral => ?_⟩
    · cases h.symm.trans (parse?_of_isIntegerLiteral hliteral)
    · cases h.symm.trans (parse?_of_isDoubleLiteral hliteral)
  · rintro ⟨hinteger, hdouble⟩
    rw [Option.eq_none_iff_forall_ne_some]
    intro n h
    obtain ⟨v, -, hliteral⟩ | ⟨x, -, hliteral⟩ := isLiteral_of_parse? h
    · exact hinteger v hliteral
    · exact hdouble x hliteral

theorem parse?_render_eq_ite (x : Binary64) :
    parse? x.render = if x.isFinite then some (.double x) else none := by
  cases hfinite : x.isFinite with
  | true => exact parse?_render_double hfinite
  | false => exact parse?_render_of_not_isFinite hfinite

/-- Exactly the literals are read as numbers, each as the number that it stands for. The canonical
text of a number is a literal for it, but for doubles that are not finite, whose texts are none. -/
theorem parse?_recognizes_literals :
    (∀ t v, parse? t = some (.integer v) ↔ IsIntegerLiteral t v) ∧
    (∀ t x, parse? t = some (.double x) ↔ IsDoubleLiteral t x) ∧
    (∀ t, parse? t = none ↔ (∀ v, ¬IsIntegerLiteral t v) ∧ ∀ x, ¬IsDoubleLiteral t x) ∧
    (∀ v, parse? (Element.number (.integer v)).render = some (.integer v)) ∧
    ∀ x, parse? (Element.number (.double x)).render =
      if x.isFinite then some (.double x) else none :=
  ⟨fun _ _ => parse?_eq_integer_iff, fun _ _ => parse?_eq_double_iff, fun _ => parse?_eq_none_iff,
    parse?_ofInt, parse?_render_eq_ite⟩

end Number

end TagMarkup
