import TagMarkup.Proofs.Quoted
import TagMarkup.Proofs.Sameness

namespace TagMarkup

namespace Decimal

theorem isNumberRest_of_mem_positional {d : Decimal} {c : Char} (h : c ∈ d.positional) :
    isNumberRest c = true := by
  obtain ⟨whole, fraction, htext, hwritten⟩ := d.exists_written
  rw [htext, List.mem_append, List.mem_cons] at h
  obtain h | rfl | h := h
  · exact isNumberRest_of_isDigit (hwritten.digits c (List.mem_append_left _ h))
  · rfl
  · exact isNumberRest_of_isDigit (hwritten.digits c (List.mem_append_right _ h))

theorem magnitudeOf_eq_of_positional_eq {d e : Decimal} (h : d.positional = e.positional) :
    Binary64.magnitudeOf d = Binary64.magnitudeOf e := by
  have hpoint {whole fraction : Text} (hdigits : ∀ c ∈ whole ++ fraction, c.isDigit = true) :
      '.' ∉ whole :=
    fun hmem => absurd (hdigits '.' (List.mem_append_left _ hmem)) (by decide)
  obtain ⟨whole, fraction, htext, hwritten⟩ := d.exists_written
  obtain ⟨whole', fraction', htext', hwritten'⟩ := e.exists_written
  rw [htext, htext'] at h
  obtain ⟨rfl, rfl⟩ :=
    Text.append_cons_inj (hpoint hwritten.digits) (hpoint hwritten'.digits) h
  calc Binary64.magnitudeOf d
      = Binary64.magnitudeOf (ofDigits whole fraction) :=
        (Binary64.magnitudeOf_eq_of_mul_eq hwritten.value).symm
    _ = Binary64.magnitudeOf e := Binary64.magnitudeOf_eq_of_mul_eq hwritten'.value

/-- What stands before the exponent: the digits, with a point after the first of them if there are
more. -/
def mantissa (d : Decimal) : Text :=
  (Text.ofNat d.digits).take 1 ++
    if ((Text.ofNat d.digits).drop 1).isEmpty then [] else '.' :: (Text.ofNat d.digits).drop 1

theorem scientific_eq (d : Decimal) :
    d.scientific =
      d.mantissa ++ 'e' :: Text.ofInt ((Text.ofNat d.digits).length - 1 + d.exponent) :=
  rfl

theorem exists_mantissa (d : Decimal) :
    ∃ c point rest, Text.ofNat d.digits = c :: rest ∧ d.mantissa = c :: (point ++ rest) ∧
      (point = [] ∨ point = ['.']) := by
  have hne : Text.ofNat d.digits ≠ [] := Nat.toDigits_ne_nil
  obtain ⟨c, rest, hdigits⟩ := List.exists_cons_of_ne_nil hne
  unfold mantissa
  rw [hdigits]
  cases rest with
  | nil => exact ⟨c, [], [], rfl, rfl, .inl rfl⟩
  | cons e rest => exact ⟨c, ['.'], e :: rest, rfl, rfl, .inr rfl⟩

theorem mantissa_filter_isDigit (d : Decimal) :
    d.mantissa.filter Char.isDigit = Text.ofNat d.digits := by
  obtain ⟨c, point, rest, hdigits, hmantissa, hpoint⟩ := d.exists_mantissa
  have hnone : point.filter Char.isDigit = [] := by
    obtain rfl | rfl := hpoint <;> rfl
  have hall : (Text.ofNat d.digits).filter Char.isDigit = Text.ofNat d.digits :=
    List.filter_eq_self.mpr fun c hc => Text.isDigit_of_mem_ofNat hc
  calc d.mantissa.filter Char.isDigit
      = ([c] ++ rest).filter Char.isDigit := by
        rw [hmantissa, ← List.singleton_append, List.filter_append, List.filter_append, hnone,
          List.nil_append, List.filter_append]
    _ = Text.ofNat d.digits := by
        rw [List.singleton_append, ← hdigits, hall]

theorem isNumberRest_of_mem_mantissa {d : Decimal} {c : Char} (h : c ∈ d.mantissa) :
    isNumberRest c = true := by
  obtain ⟨first, point, rest, hdigits, hmantissa, hpoint⟩ := d.exists_mantissa
  have hdigit (e : Char) (he : e ∈ first :: rest) : isNumberRest e = true :=
    isNumberRest_of_isDigit (Text.isDigit_of_mem_ofNat (hdigits ▸ he))
  rw [hmantissa, List.mem_cons, List.mem_append] at h
  obtain rfl | h | h := h
  · exact hdigit c List.mem_cons_self
  · obtain rfl | rfl := hpoint
    · contradiction
    · rw [List.mem_singleton.mp h]
      rfl
  · exact hdigit c (List.mem_cons_of_mem first h)

theorem scientific_inj {d e : Decimal} (h : d.scientific = e.scientific) : d = e := by
  have hletter (d : Decimal) : 'e' ∉ d.mantissa :=
    fun hmem => absurd (isNumberRest_of_mem_mantissa hmem) (by decide)
  rw [scientific_eq, scientific_eq] at h
  obtain ⟨hmantissa, hpower⟩ := Text.append_cons_inj (hletter d) (hletter e) h
  have hdigits := congrArg (List.filter Char.isDigit) hmantissa
  have hexponent := Text.ofInt_inj hpower
  rw [mantissa_filter_isDigit, mantissa_filter_isDigit] at hdigits
  rw [hdigits] at hexponent
  obtain ⟨digits, exponent⟩ := d
  obtain ⟨digits', exponent'⟩ := e
  obtain rfl : digits = digits' := Text.ofNat_inj hdigits
  obtain rfl : exponent = exponent' := Int.add_left_cancel hexponent
  rfl

end Decimal

namespace Binary64

/-- The layout that the general text of a magnitude has. -/
def generalLayout (magnitude : Nat) : Decimal → Text :=
  if wantsExponent magnitude then Decimal.scientific else Decimal.positional

theorem head?_generalLayout (magnitude : Nat) (d : Decimal) :
    (generalLayout magnitude d).head? ≠ some '-' := by
  have hminus : isNumberRest '-' ≠ true := by decide
  unfold generalLayout
  split
  · obtain ⟨c, point, rest, -, hmantissa, -⟩ := d.exists_mantissa
    rw [Decimal.scientific_eq, hmantissa, List.cons_append, List.head?_cons]
    intro hhead
    have hmem : '-' ∈ d.mantissa := by
      rw [hmantissa, Option.some.inj hhead]
      exact List.mem_cons_self
    exact hminus (Decimal.isNumberRest_of_mem_mantissa hmem)
  · exact fun hhead =>
      hminus (Decimal.isNumberRest_of_mem_positional (List.mem_of_mem_head? hhead))

theorem mem_generalLayout {magnitude : Nat} {d : Decimal} {c : Char}
    (h : c ∈ generalLayout magnitude d) : isNumberRest c = true ∨ c ∈ ['-', 'e'] := by
  unfold generalLayout at h
  split at h
  · rw [Decimal.scientific_eq, List.mem_append, List.mem_cons] at h
    obtain h | rfl | h := h
    · exact .inl (Decimal.isNumberRest_of_mem_mantissa h)
    · exact .inr (by decide)
    · by_cases hdigit : c.isDigit = true
      · exact .inl (isNumberRest_of_isDigit hdigit)
      · by_cases hminus : c = '-'
        · exact .inr (by simp [hminus])
        · exact absurd h (Text.not_mem_ofInt (Bool.eq_false_iff.mpr hdigit) hminus _)
  · exact .inl (Decimal.isNumberRest_of_mem_positional h)

theorem magnitudeOf_eq_of_generalLayout_eq {m n : Nat} {d e : Decimal}
    (h : generalLayout m d = generalLayout n e) : magnitudeOf d = magnitudeOf e := by
  have hletter (d e : Decimal) : d.scientific ≠ e.positional := by
    intro heq
    have hmem : 'e' ∈ e.positional := by
      rw [← heq, Decimal.scientific_eq]
      exact List.mem_append_right _ List.mem_cons_self
    exact absurd (Decimal.isNumberRest_of_mem_positional hmem) (by decide)
  unfold generalLayout at h
  split at h
  · split at h
    · rw [Decimal.scientific_inj h]
    · exact (hletter d e h).elim
  · split at h
    · exact (hletter e d h.symm).elim
    · exact Decimal.magnitudeOf_eq_of_positional_eq h

theorem renderGeneral_of_isFinite {v : Binary64} (h : v.isFinite = true) :
    v.renderGeneral = if v.negative then
        '-' :: generalLayout v.magnitude.toNat (shortest v.magnitude.toNat)
      else generalLayout v.magnitude.toNat (shortest v.magnitude.toNat) :=
  renderWith_of_isFinite (generalLayout v.magnitude.toNat) h

theorem magnitudeOf_shortest_of_isFinite {v : Binary64} (h : v.isFinite = true) :
    magnitudeOf (shortest v.magnitude.toNat) = v.magnitude.toNat :=
  magnitudeOf_shortest (of_decide_eq_true h)

theorem renderGeneral_inj {v w : Binary64} (hv : v.isFinite = true) (hw : w.isFinite = true)
    (h : v.renderGeneral = w.renderGeneral) : v = w := by
  have hminus (magnitude : Nat) (d : Decimal) (rest : Text) :
      '-' :: rest ≠ generalLayout magnitude d :=
    fun heq => head?_generalLayout magnitude d (heq ▸ rfl)
  rw [renderGeneral_of_isFinite hv, renderGeneral_of_isFinite hw] at h
  have hsame : v.negative = w.negative ∧
      generalLayout v.magnitude.toNat (shortest v.magnitude.toNat) =
        generalLayout w.magnitude.toNat (shortest w.magnitude.toNat) := by
    cases hsign : v.negative <;> cases hsign' : w.negative <;>
      simp only [hsign, hsign', if_true, Bool.false_eq_true, if_false] at h
    · exact ⟨rfl, h⟩
    · exact (hminus _ _ _ h.symm).elim
    · exact (hminus _ _ _ h).elim
    · exact ⟨rfl, (List.cons_eq_cons.mp h).2⟩
  have hmagnitude := magnitudeOf_eq_of_generalLayout_eq hsame.2
  rw [magnitudeOf_shortest_of_isFinite hv, magnitudeOf_shortest_of_isFinite hw] at hmagnitude
  exact eq_iff.mpr ⟨hsame.1, hmagnitude⟩

theorem mem_renderGeneral {v : Binary64} {c : Char} (h : c ∈ v.renderGeneral) :
    isNumberRest c = true ∨ c ∈ ['-', 'e', 'N', 'a', 'i', 'n', 'f'] := by
  cases hfinite : v.isFinite with
  | true =>
      have hmem : c = '-' ∨
          c ∈ generalLayout v.magnitude.toNat (shortest v.magnitude.toNat) := by
        rw [renderGeneral_of_isFinite hfinite] at h
        split at h
        · exact List.mem_cons.mp h
        · exact .inr h
      obtain rfl | hmem := hmem
      · exact .inr (by decide)
      · exact (mem_generalLayout hmem).imp_right (List.mem_append_left ['N', 'a', 'i', 'n', 'f'])
  | false =>
      have hletters : ∀ t ∈ [['N', 'a', 'N'], ['i', 'n', 'f'], ['-', 'i', 'n', 'f']], ∀ c ∈ t,
          c ∈ ['-', 'e', 'N', 'a', 'i', 'n', 'f'] := by
        simp
      exact .inr (hletters v.renderGeneral (renderWith_of_not_isFinite _ hfinite) c h)

end Binary64

end TagMarkup
