import Mathlib.Data.List.TakeWhile
import TagMarkup.Number
import TagMarkup.Proofs.Binary64

namespace TagMarkup

theorem Text.takeWhile_append_of_stop {p : Char → Bool} {run after : Text}
    (hrun : ∀ c ∈ run, p c = true) (hstop : after.head?.any p = false) :
    (run ++ after).takeWhile p = run ∧ (run ++ after).dropWhile p = after := by
  have hafter : after.takeWhile p = [] ∧ after.dropWhile p = after := by
    cases after with
    | nil => exact ⟨rfl, rfl⟩
    | cons c rest =>
        have hc : p c = false := by simpa using hstop
        simp [hc]
  rw [List.takeWhile_append_of_pos hrun, List.dropWhile_append_of_pos hrun, hafter.1, hafter.2]
  exact ⟨List.append_nil run, rfl⟩

theorem Text.isDigit_of_mem_ofNat {n : Nat} {c : Char} (h : c ∈ Text.ofNat n) :
    c.isDigit = true :=
  Nat.isDigit_of_mem_toDigits (by decide) (by decide) h

theorem Text.not_mem_ofNat {c : Char} (hc : c.isDigit = false) (n : Nat) : c ∉ ofNat n := by
  intro hmem
  simp [isDigit_of_mem_ofNat hmem] at hc

theorem Text.ofNat_inj {n m : Nat} (h : ofNat n = ofNat m) : n = m :=
  calc n
      = Nat.ofDigitChars 10 (ofNat n) 0 := Nat.ofDigitChars_ten_toDigits.symm
    _ = Nat.ofDigitChars 10 (ofNat m) 0 := by rw [h]
    _ = m := Nat.ofDigitChars_ten_toDigits

theorem Text.not_mem_ofInt {c : Char} (hc : c.isDigit = false) (hminus : c ≠ '-') (i : Int) :
    c ∉ ofInt i := by
  unfold ofInt
  split <;> simp [hminus, not_mem_ofNat hc]

theorem Text.ofInt_inj {i j : Int} (h : ofInt i = ofInt j) : i = j := by
  have hminus (n m : Nat) : '-' :: ofNat n ≠ ofNat m := by
    intro heq
    exact not_mem_ofNat (by decide) m (heq ▸ List.mem_cons_self)
  unfold ofInt at h
  split at h
  · split at h
    · have habs := ofNat_inj (List.cons_eq_cons.mp h).2
      omega
    · exact (hminus _ _ h).elim
  · split at h
    · exact (hminus _ _ h.symm).elim
    · have habs := ofNat_inj h
      omega

namespace Decimal

def ofDigits (whole fraction : Text) : Decimal :=
  ⟨Nat.ofDigitChars 10 (whole ++ fraction) 0, -fraction.length⟩

/-- Digits around a point that stand for the value of a decimal. -/
structure Written (d : Decimal) (whole fraction : Text) : Prop where
  whole_ne_nil : whole ≠ []
  digits : ∀ c ∈ whole ++ fraction, c.isDigit = true
  value : (ofDigits whole fraction).numerator * d.denominator =
    d.numerator * (ofDigits whole fraction).denominator

theorem written_of_places_eq_zero {d : Decimal} (h : d.places = 0) :
    d.Written (Text.ofNat d.digits ++ List.replicate d.exponent.toNat '0') ['0'] where
  whole_ne_nil := by simp [Text.ofNat, Nat.toDigits_ne_nil]
  digits := by
    intro c hc
    simp only [List.append_assoc, List.mem_append, List.mem_replicate, List.mem_singleton] at hc
    rcases hc with hc | ⟨-, rfl⟩ | rfl
    · exact Text.isDigit_of_mem_ofNat hc
    · rfl
    · rfl
  value := by
    have hexponent : -d.exponent ≤ 0 := by
      simp only [places] at h
      omega
    have hdigits : Nat.ofDigitChars 10
        (Text.ofNat d.digits ++ List.replicate d.exponent.toNat '0' ++ ['0']) 0 =
        10 * d.numerator := by
      simp [Text.ofNat, Nat.ofDigitChars_append, Nat.ofDigitChars_cons,
        Nat.ofDigitChars_ten_toDigits, numerator, Nat.mul_comm]
    simp only [ofDigits, numerator, denominator] at hdigits ⊢
    rw [hdigits, Int.toNat_of_nonpos hexponent]
    simp [Nat.mul_comm]

def padded (d : Decimal) : Text :=
  (Text.ofNat d.digits).leftpad (d.places + 1) '0'

theorem places_lt_length_padded (d : Decimal) : d.places < d.padded.length := by
  simp only [padded, List.length_leftpad]
  omega

theorem ofDigitChars_padded (d : Decimal) : Nat.ofDigitChars 10 d.padded 0 = d.digits := by
  simp [padded, List.leftpad, Text.ofNat, Nat.ofDigitChars_append,
    Nat.ofDigitChars_ten_toDigits]

theorem written_of_places_ne_zero {d : Decimal} (h : d.places ≠ 0) :
    d.Written (d.padded.take (d.padded.length - d.places))
      (d.padded.drop (d.padded.length - d.places)) where
  whole_ne_nil := by
    have := d.places_lt_length_padded
    rw [← List.length_pos_iff, List.length_take]
    omega
  digits := by
    intro c hc
    simp only [List.take_append_drop, padded, List.leftpad, List.mem_append,
      List.mem_replicate] at hc
    rcases hc with ⟨-, rfl⟩ | hc
    · rfl
    · exact Text.isDigit_of_mem_ofNat hc
  value := by
    have hfraction : (d.padded.drop (d.padded.length - d.places)).length = d.places := by
      have := d.places_lt_length_padded
      rw [List.length_drop]
      omega
    have hexponent : -(d.places : Int) = d.exponent := by
      simp only [places] at h ⊢
      omega
    rw [ofDigits, List.take_append_drop, hfraction, hexponent, ofDigitChars_padded]

theorem exists_written (d : Decimal) :
    ∃ whole fraction : Text,
      d.positional = whole ++ '.' :: fraction ∧ d.Written whole fraction := by
  by_cases h : d.places = 0
  · exact ⟨_, _, by simp [positional, h], written_of_places_eq_zero h⟩
  · exact ⟨_, _, by simp [positional, h, padded], written_of_places_ne_zero h⟩

end Decimal

namespace Number

/-- Whether a number is an integer or a finite double. Every literal stands for such a number. -/
def IsFinite : Number → Prop
  | integer _ => True
  | double value => value.isFinite = true

theorem unsigned?_digits (negative : Bool) {digits : Text} (hne : digits ≠ [])
    (h : ∀ c ∈ digits, c.isDigit = true) :
    unsigned? negative digits = integer? negative digits := by
  have htake : digits.takeWhile Char.isDigit = digits := List.takeWhile_eq_self_iff.mpr h
  have hdrop : digits.dropWhile Char.isDigit = [] := List.dropWhile_eq_nil_iff.mpr h
  simp [unsigned?, htake, hdrop, hne]

theorem unsigned?_point (negative : Bool) {whole fraction : Text} (hne : whole ≠ [])
    (h : ∀ c ∈ whole ++ fraction, c.isDigit = true) :
    unsigned? negative (whole ++ '.' :: fraction) = double? negative whole fraction := by
  have hwhole : ∀ c ∈ whole, c.isDigit = true := fun c hc => h c (by simp [hc])
  have hfraction : fraction.all Char.isDigit = true := by
    simpa using fun c hc => h c (by simp [hc])
  have hstop : ('.' :: fraction).head?.any Char.isDigit = false := rfl
  obtain ⟨htake, hdrop⟩ := Text.takeWhile_append_of_stop hwhole hstop
  simp [unsigned?, htake, hdrop, hne, hfraction]

theorem parse?_of_ne_minus {c : Char} (hc : c ≠ '-') (t : Text) :
    parse? (c :: t) = unsigned? false (c :: t) := by
  unfold parse?
  split
  · rename_i heq
    simp_all
  · rfl

theorem parse?_of_digit {c : Char} (h : c.isDigit = true) (t : Text) :
    parse? (c :: t) = unsigned? false (c :: t) := by
  apply parse?_of_ne_minus
  rintro rfl
  contradiction

theorem integer?_ofNat (value : Int64) :
    integer? (value.toInt < 0) (Text.ofNat value.toInt.natAbs) = some (.integer value) := by
  have hdigits : Nat.ofDigitChars 10 (Text.ofNat value.toInt.natAbs) 0 = value.toInt.natAbs :=
    Nat.ofDigitChars_ten_toDigits
  have hsigned : (if value.toInt < 0 then -(value.toInt.natAbs : Int) else value.toInt.natAbs) =
      value.toInt := by
    split <;> omega
  have hrange : Int64.minValue.toInt ≤ value.toInt ∧ value.toInt ≤ Int64.maxValue.toInt :=
    ⟨Int64.minValue_le_toInt value, Int64.toInt_le value⟩
  simp only [integer?, hdigits, decide_eq_true_eq, hsigned, hrange, and_self, if_true,
    Int64.ofInt_toInt]

theorem parse?_ofInt (value : Int64) :
    parse? (Text.ofInt value.toInt) = some (.integer value) := by
  have hdigits : ∀ c ∈ Text.ofNat value.toInt.natAbs, c.isDigit = true :=
    fun c hc => Text.isDigit_of_mem_ofNat hc
  have hne : Text.ofNat value.toInt.natAbs ≠ [] := Nat.toDigits_ne_nil
  have hread := integer?_ofNat value
  rw [← unsigned?_digits _ hne hdigits] at hread
  by_cases hnegative : value.toInt < 0
  · simpa [Text.ofInt, hnegative, parse?] using hread
  · obtain ⟨c, rest, hcons⟩ := List.exists_cons_of_ne_nil hne
    rw [hcons] at hdigits hread
    simpa [Text.ofInt, hnegative, hcons, parse?_of_digit (hdigits c (by simp))] using hread

end Number

namespace Binary64

theorem renderWith_of_isFinite (layout : Decimal → Text) {v : Binary64} (h : v.isFinite = true) :
    v.renderWith layout = if v.negative then '-' :: layout (shortest v.magnitude.toNat)
      else layout (shortest v.magnitude.toNat) := by
  have hnan : v.isNaN = false := by
    simp only [isFinite, isNaN, decide_eq_true_eq, decide_eq_false_iff_not] at h ⊢
    omega
  simp [renderWith, hnan, h]

theorem renderWith_of_not_isFinite (layout : Decimal → Text) {v : Binary64}
    (h : v.isFinite = false) :
    v.renderWith layout ∈ [['N', 'a', 'N'], ['i', 'n', 'f'], ['-', 'i', 'n', 'f']] := by
  cases hnan : v.isNaN with
  | true => simp [renderWith, hnan]
  | false => cases hnegative : v.negative <;> simp [renderWith, hnan, h, hnegative]

end Binary64

namespace Number

theorem double?_shortest {v : Binary64} (h : v.isFinite = true) {whole fraction : Text}
    (hwritten : (Binary64.shortest v.magnitude.toNat).Written whole fraction) :
    double? v.negative whole fraction = some (.double v) := by
  have hfinite : v.magnitude.toNat < Binary64.infinity := by simpa [Binary64.isFinite] using h
  have hmagnitude : Binary64.magnitudeOf (Decimal.ofDigits whole fraction) = v.magnitude.toNat := by
    rw [Binary64.magnitudeOf_eq_of_mul_eq hwritten.value, Binary64.magnitudeOf_shortest hfinite]
  have hread := Binary64.ofDecimal_eq_self hmagnitude
  rw [Decimal.ofDigits] at hread
  simp [double?, hread, h]

theorem parse?_render_double {v : Binary64} (h : v.isFinite = true) :
    parse? v.render = some (.double v) := by
  obtain ⟨whole, fraction, htext, hwritten⟩ :=
    (Binary64.shortest v.magnitude.toNat).exists_written
  have hread := double?_shortest h hwritten
  rw [← unsigned?_point _ hwritten.whole_ne_nil hwritten.digits] at hread
  rw [Binary64.render, Binary64.renderWith_of_isFinite _ h, htext]
  cases hnegative : v.negative with
  | true => simpa [parse?, hnegative] using hread
  | false =>
      obtain ⟨c, rest, rfl⟩ := List.exists_cons_of_ne_nil hwritten.whole_ne_nil
      simpa [parse?_of_digit (hwritten.digits c (by simp)), hnegative] using hread

theorem parse?_render {n : Number} (h : n.IsFinite) : parse? n.render = some n := by
  cases n with
  | integer value => exact parse?_ofInt value
  | double value => exact parse?_render_double h

theorem parse?_render_of_not_isFinite {v : Binary64} (h : v.isFinite = false) :
    parse? v.render = none := by
  have hnone : ∀ t ∈ [['N', 'a', 'N'], ['i', 'n', 'f'], ['-', 'i', 'n', 'f']],
      parse? t = none := by
    decide
  exact hnone v.render (Binary64.renderWith_of_not_isFinite _ h)

theorem unsigned?_eq_some {negative : Bool} {t : Text} {n : Number}
    (h : unsigned? negative t = some n) :
    ∃ whole, whole ≠ [] ∧ (∀ c ∈ whole, c.isDigit = true) ∧
      (t = whole ∧ integer? negative whole = some n ∨
        ∃ fraction, (∀ c ∈ fraction, c.isDigit = true) ∧ t = whole ++ '.' :: fraction ∧
          double? negative whole fraction = some n) := by
  have happend := List.takeWhile_append_dropWhile (p := Char.isDigit) (l := t)
  have hdigits : ∀ c ∈ t.takeWhile Char.isDigit, c.isDigit = true :=
    fun c hc => List.mem_takeWhile_imp hc
  unfold unsigned? at h
  dsimp only at h
  split at h
  · contradiction
  · rename_i hne
    refine ⟨t.takeWhile Char.isDigit, by simpa using hne, hdigits, ?_⟩
    split at h
    · rename_i hrest
      rw [hrest, List.append_nil] at happend
      exact .inl ⟨happend.symm, h⟩
    · rename_i fraction hrest
      split at h
      · rename_i hfraction
        rw [hrest] at happend
        exact .inr ⟨fraction, by simpa using hfraction, happend.symm, h⟩
      · contradiction
    · contradiction

theorem parse?_eq_some {t : Text} {n : Number} (h : parse? t = some n) :
    ∃ negative u, t = (if negative = true then ['-'] else []) ++ u ∧
      unsigned? negative u = some n := by
  unfold parse? at h
  split at h
  · exact ⟨true, _, rfl, h⟩
  · exact ⟨false, _, rfl, h⟩

theorem isFinite_of_integer? {negative : Bool} {digits : Text} {n : Number}
    (h : integer? negative digits = some n) : n.IsFinite := by
  obtain ⟨-, hvalue⟩ := Option.ite_none_right_eq_some.mp h
  cases hvalue
  trivial

theorem isFinite_of_double? {negative : Bool} {whole fraction : Text} {n : Number}
    (h : double? negative whole fraction = some n) : n.IsFinite := by
  obtain ⟨hfinite, hvalue⟩ := Option.ite_none_right_eq_some.mp h
  cases hvalue
  exact hfinite

theorem isFinite_of_parse? {t : Text} {n : Number} (h : parse? t = some n) : n.IsFinite := by
  obtain ⟨negative, u, -, hread⟩ := parse?_eq_some h
  obtain ⟨whole, -, -, ⟨-, hinteger⟩ | ⟨fraction, -, -, hdouble⟩⟩ := unsigned?_eq_some hread
  · exact isFinite_of_integer? hinteger
  · exact isFinite_of_double? hdouble

end Number

end TagMarkup
