import TagMarkup.Token.Scan

namespace TagMarkup

namespace Unicode

/-- No range of the one list meets a range of the other. -/
def Ranges.Apart (a b : Ranges) : Prop :=
  ∀ r ∈ a, ∀ q ∈ b, r.2 < q.1 ∨ q.2 < r.1

instance (a b : Ranges) : Decidable (a.Apart b) :=
  inferInstanceAs (Decidable (∀ r ∈ a, ∀ q ∈ b, r.2 < q.1 ∨ q.2 < r.1))

theorem Ranges.Apart.not_covers {a b : Ranges} (h : a.Apart b) {c : Char}
    (hc : a.covers c = true) : b.covers c = false := by
  rw [Bool.eq_false_iff]
  intro hother
  obtain ⟨r, hr, hfirst, hlast⟩ := covers_iff.mp hc
  obtain ⟨q, hq, hfirst', hlast'⟩ := covers_iff.mp hother
  have := h r hr q hq
  omega

theorem whiteSpace_apart_alphabetic : whiteSpace.Apart alphabetic := by
  decide +kernel

theorem whiteSpace_apart_numeric : whiteSpace.Apart numeric := by
  decide +kernel

theorem of_ascii {p : Char → Prop} (h : ∀ n < 128, p (Char.ofNat n)) {c : Char}
    (hc : c.toNat < 128) : p c := by
  have := h c.toNat hc
  rwa [Char.ofNat_toNat] at this

theorem not_isAlphabetic_of_isWhiteSpace {c : Char} (h : isWhiteSpace c = true) :
    isAlphabetic c = false := by
  unfold isAlphabetic
  split
  · rename_i hascii
    revert h
    exact of_ascii (p := fun c => isWhiteSpace c = true → c.isAlpha = false) (by decide) hascii
  · exact whiteSpace_apart_alphabetic.not_covers h

theorem not_isNumeric_of_isWhiteSpace {c : Char} (h : isWhiteSpace c = true) :
    isNumeric c = false := by
  unfold isNumeric
  split
  · rename_i hascii
    revert h
    exact of_ascii (p := fun c => isWhiteSpace c = true → c.isDigit = false) (by decide) hascii
  · exact whiteSpace_apart_numeric.not_covers h

end Unicode

open Unicode

theorem lt_of_isDigit {c : Char} (h : c.isDigit = true) : c.toNat < 128 := by
  simp only [Char.isDigit, Bool.and_eq_true, decide_eq_true_eq, UInt32.le_iff_toNat_le] at h
  have : c.toNat ≤ 57 := h.2
  omega

theorem not_isNameStart_of_isDigit {c : Char} (h : c.isDigit = true) : isNameStart c = false := by
  have hascii := lt_of_isDigit h
  revert h
  exact of_ascii (p := fun c => c.isDigit = true → isNameStart c = false) (by decide) hascii

theorem not_isWhiteSpace_of_isDigit {c : Char} (h : c.isDigit = true) :
    isWhiteSpace c = false := by
  have hascii := lt_of_isDigit h
  revert h
  exact of_ascii (p := fun c => c.isDigit = true → isWhiteSpace c = false) (by decide) hascii

theorem not_isNameStart_of_isWhiteSpace {c : Char} (h : isWhiteSpace c = true) :
    isNameStart c = false :=
  not_isAlphabetic_of_isWhiteSpace h

theorem not_isNameRest_of_isWhiteSpace {c : Char} (h : isWhiteSpace c = true) :
    isNameRest c = false := by
  have hunderscore : c ≠ '_' := by
    rintro rfl
    contradiction
  simp [isNameRest, not_isAlphabetic_of_isWhiteSpace h, not_isNumeric_of_isWhiteSpace h,
    hunderscore]

theorem not_isNumberRest_of_isWhiteSpace {c : Char} (h : isWhiteSpace c = true) :
    isNumberRest c = false := by
  rw [Bool.eq_false_iff]
  intro hnumber
  rw [isNumberRest, Bool.or_eq_true, beq_iff_eq] at hnumber
  obtain hdigit | rfl := hnumber
  · simp [not_isWhiteSpace_of_isDigit hdigit] at h
  · contradiction

theorem isNameRest_of_isNameStart {c : Char} (h : isNameStart c = true) : isNameRest c = true := by
  rw [isNameStart] at h
  simp [isNameRest, h]

theorem isNumberRest_of_isDigit {c : Char} (h : c.isDigit = true) : isNumberRest c = true := by
  simp [isNumberRest, h]

theorem isOperator_iff {c : Char} : isOperator c = true ↔ c ∈ ['+', '-', '*', '/', '^'] := by
  simp [isOperator, or_assoc]

theorem literalEscape?_eq_some_iff {c d : Char} :
    literalEscape? c = some d ↔
      (c, d) ∈ [('\\', '\\'), ('"', '"'), ('n', '\n'), ('r', '\r'), ('t', '\t')] := by
  unfold literalEscape?
  split <;> simp_all [eq_comm]

end TagMarkup
