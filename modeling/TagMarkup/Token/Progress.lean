import TagMarkup.Token.Lexer

namespace TagMarkup

theorem opensTag_iff {source : Text} :
    opensTag source = true ↔ ∃ rest, source = '{' :: '$' :: rest := by
  constructor
  · intro h
    fun_cases opensTag source
    · exact ⟨_, rfl⟩
    · simp_all [opensTag]
  · rintro ⟨rest, rfl⟩
    rfl

theorem scanText_width_pos {source : Text} (h : (scanText source).text ≠ []) :
    0 < (scanText source).width := by
  revert h
  fun_cases scanText source <;> simp [Scan.stop]

namespace Lexeme

/-- What a lexeme passed over and what it left make up the source. -/
def Conserves (x : Lexeme) (source : Text) : Prop :=
  x.width + x.rest.length = source.length

/-- Only the end of the input takes no character. -/
def Advances (x : Lexeme) : Prop :=
  ∀ t, x.outcome = .ok t → t.kind ≠ .endOfInput → 0 < x.width

private theorem takeWhile_length_add (p : Char → Bool) (source : Text) :
    (source.takeWhile p).length + (source.dropWhile p).length = source.length := by
  rw [← List.length_append, List.takeWhile_append_dropWhile]

theorem outsideTag_conserves (offset : Nat) (source : Text) :
    (outsideTag offset source).Conserves source := by
  have hwidth := scanText_width source
  unfold outsideTag Conserves
  split
  · rename_i hopen
    obtain ⟨rest, rfl⟩ := opensTag_iff.mp hopen
    simp [token]
    omega
  · dsimp only
    split
    · exact hwidth
    · split <;> simp_all [token]

theorem advances_fault (e : LexError) (width : Nat) (rest : Text) :
    (fault e width rest).Advances := by
  intro t htoken
  simp [fault] at htoken

theorem advances_token (kind : TokenKind) (value : Option TokenValue) (offset : Nat)
    {width : Nat} (rest : Text) (hwidth : 0 < width) :
    (token kind value offset width rest).Advances :=
  fun _ _ _ => hwidth

theorem advances_endOfInput (value : Option TokenValue) (offset width : Nat) (rest : Text) :
    (token .endOfInput value offset width rest).Advances := by
  intro t htoken hkind
  simp only [token, Except.ok.injEq] at htoken
  subst htoken
  contradiction

theorem outsideTag_advances (offset : Nat) (source : Text) :
    (outsideTag offset source).Advances := by
  unfold outsideTag
  split
  · exact advances_token _ _ _ _ (by decide)
  · dsimp only
    split
    · exact advances_fault _ _ _
    · split
      · exact advances_endOfInput _ _ _ _
      · rename_i htext
        exact advances_token _ _ _ _ (scanText_width_pos (by simpa using htext))

theorem literal_conserves (offset : Nat) (content : Text) :
    (literal offset content).Conserves ('"' :: content) := by
  have hwidth := scanLiteral_width content
  unfold literal Conserves
  dsimp only
  split <;> simp [fault, token] <;> omega

theorem number_conserves (offset : Nat) (c : Char) (source : Text) :
    (number offset c source).Conserves (c :: source) := by
  have hlength := takeWhile_length_add isNumberRest source
  unfold number Conserves
  dsimp only
  split <;> simp [fault, token] <;> omega

theorem name_conserves (offset : Nat) (c : Char) (source : Text) :
    (name offset c source).Conserves (c :: source) := by
  have hlength := takeWhile_length_add isNameRest source
  simp [name, token, Conserves]
  omega

theorem function_conserves (offset : Nat) (source : Text) :
    (function offset source).Conserves ('@' :: source) := by
  have hlength := takeWhile_length_add isNameRest source
  unfold function Conserves
  split <;> simp [fault, token]
  omega

theorem close_conserves (offset : Nat) (source : Text) :
    (close offset source).Conserves ('$' :: source) := by
  unfold close Conserves
  split
  · simp [fault]
  · split <;> simp [fault, token]
    omega

theorem insideTagAt_conserves (offset : Nat) (source : Text) :
    (insideTagAt offset source).Conserves source := by
  unfold insideTagAt
  split
  · simp [fault, Conserves]
  · rename_i c rest
    split
    · subst_vars; exact close_conserves offset rest
    split
    · subst_vars; exact literal_conserves offset rest
    split
    · subst_vars; exact function_conserves offset rest
    split
    · simp [token, Conserves]; omega
    split
    · exact number_conserves offset c rest
    split
    · simp [token, Conserves]; omega
    split
    · exact number_conserves offset c rest
    split
    · exact name_conserves offset c rest
    · simp [fault, Conserves]

theorem literal_advances (offset : Nat) (content : Text) :
    (literal offset content).Advances := by
  unfold literal
  dsimp only
  split
  · exact advances_fault _ _ _
  · exact advances_fault _ _ _
  · exact advances_token _ _ _ _ (by omega)

theorem number_advances (offset : Nat) (c : Char) (source : Text) :
    (number offset c source).Advances := by
  unfold number
  dsimp only
  split
  · exact advances_token _ _ _ _ (by simp)
  · exact advances_token _ _ _ _ (by simp)
  · exact advances_fault _ _ _

theorem function_advances (offset : Nat) (source : Text) :
    (function offset source).Advances := by
  unfold function
  split
  · exact advances_token _ _ _ _ (by omega)
  · exact advances_fault _ _ _

theorem close_advances (offset : Nat) (source : Text) : (close offset source).Advances := by
  unfold close
  split
  · exact advances_fault _ _ _
  · split
    · exact advances_token _ _ _ _ (by decide)
    · exact advances_fault _ _ _

theorem insideTagAt_advances (offset : Nat) (source : Text) :
    (insideTagAt offset source).Advances := by
  unfold insideTagAt
  split
  · exact advances_fault _ _ _
  · split
    · exact close_advances _ _
    split
    · exact literal_advances _ _
    split
    · exact function_advances _ _
    split
    · exact advances_token _ _ _ _ (by decide)
    split
    · exact number_advances _ _ _
    split
    · exact advances_token _ _ _ _ (by decide)
    split
    · exact number_advances _ _ _
    split
    · exact advances_token _ _ _ _ (by simp)
    · exact advances_fault _ _ _

theorem insideTag_conserves (offset : Nat) (source : Text) :
    (insideTag offset source).Conserves source := by
  have hlength := takeWhile_length_add Unicode.isWhiteSpace source
  have hinner := insideTagAt_conserves
    (offset + (source.takeWhile Unicode.isWhiteSpace).length)
    (source.dropWhile Unicode.isWhiteSpace)
  unfold Conserves at hinner ⊢
  simp only [insideTag, after]
  omega

theorem insideTag_advances (offset : Nat) (source : Text) :
    (insideTag offset source).Advances := by
  intro t htoken hkind
  have hinner := insideTagAt_advances
    (offset + (source.takeWhile Unicode.isWhiteSpace).length)
    (source.dropWhile Unicode.isWhiteSpace) t htoken hkind
  simp only [insideTag, after]
  omega

theorem read_conserves (m : Mode) (offset : Nat) (source : Text) :
    (read m offset source).Conserves source := by
  cases m
  · exact outsideTag_conserves offset source
  · exact insideTag_conserves offset source

theorem read_advances (m : Mode) (offset : Nat) (source : Text) :
    (read m offset source).Advances := by
  cases m
  · exact outsideTag_advances offset source
  · exact insideTag_advances offset source

end Lexeme

end TagMarkup
