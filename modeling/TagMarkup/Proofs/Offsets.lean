import TagMarkup.Proofs.Stream

namespace TagMarkup

def LexError.shift (n : Nat) : LexError → LexError
  | .invalidEscape sequence offset => .invalidEscape sequence (offset + n)
  | .unterminatedEscape offset => .unterminatedEscape (offset + n)
  | .unterminatedTag offset => .unterminatedTag (offset + n)
  | .unterminatedString offset => .unterminatedString (offset + n)
  | .disallowedCharacter character offset => .disallowedCharacter character (offset + n)
  | .malformedTagClose offset => .malformedTagClose (offset + n)
  | .malformedNumber text offset => .malformedNumber text (offset + n)
  | .invalidFunctionName offset => .invalidFunctionName (offset + n)
  | .pastEndOfInput offset => .pastEndOfInput (offset + n)

/-- The same error in a source that has `n` more characters in front. -/
def ParseError.shift (n : Nat) : ParseError → ParseError
  | .lex error => .lex (error.shift n)
  | .emptyTag offset => .emptyTag (offset + n)
  | .unknownTag name offset => .unknownTag name (offset + n)
  | .unexpectedToken found offset => .unexpectedToken found (offset + n)
  | .missingLoopName found offset => .missingLoopName found (offset + n)
  | .invalidBound found offset => .invalidBound found (offset + n)
  | .tooFewBounds offset => .tooFewBounds (offset + n)
  | .unclosedLoopTag found offset => .unclosedLoopTag found (offset + n)
  | .unclosedEndTag found offset => .unclosedEndTag found (offset + n)
  | .unmatchedEnd offset => .unmatchedEnd (offset + n)
  | .invalidElement found offset => .invalidElement found (offset + n)
  | .unterminatedLoop name offset => .unterminatedLoop name (offset + n)

def Token.shift (n : Nat) (t : Token) : Token :=
  { t with offset := t.offset + n }

def shiftItem (n : Nat) : Except LexError Token → Except LexError Token
  | .ok t => .ok (t.shift n)
  | .error e => .error (e.shift n)

@[simp] theorem Token.shift_kind (n : Nat) (t : Token) : (t.shift n).kind = t.kind := rfl

@[simp] theorem shiftItem_ok (n : Nat) (t : Token) : shiftItem n (.ok t) = .ok (t.shift n) := rfl

@[simp] theorem shiftItem_error (n : Nat) (e : LexError) :
    shiftItem n (.error e) = .error (e.shift n) := rfl

theorem shiftItem_eq_ok {n : Nat} {item : Except LexError Token} {t : Token}
    (h : shiftItem n item = .ok t) : ∃ u, item = .ok u ∧ u.shift n = t := by
  cases item with
  | error e => contradiction
  | ok u => exact ⟨u, rfl, Except.ok.inj h⟩

theorem shiftItem_eq_error {n : Nat} {item : Except LexError Token} {e : LexError}
    (h : shiftItem n item = .error e) : ∃ e', item = .error e' := by
  cases item with
  | error e' => exact ⟨e', rfl⟩
  | ok u => contradiction

namespace Lexeme

def shift (n : Nat) (x : Lexeme) : Lexeme :=
  { x with outcome := shiftItem n x.outcome }

variable (n offset : Nat)

theorem shift_token (kind : TokenKind) (value : Option TokenValue) (width : Nat) (rest : Text) :
    token kind value (offset + n) width rest = (token kind value offset width rest).shift n :=
  rfl

theorem shift_fault (error : LexError) (width : Nat) (rest : Text) :
    fault (error.shift n) width rest = (fault error width rest).shift n :=
  rfl

theorem shift_scanFault (f : ScanFault) (width : Nat) :
    f.error (offset + n + width) = (f.error (offset + width)).shift n := by
  rw [Nat.add_right_comm]
  cases f <;> rfl

theorem outsideTag_shift (source : Text) :
    outsideTag (offset + n) source = (outsideTag offset source).shift n := by
  unfold outsideTag
  split
  · exact shift_token n offset _ _ _ _
  · dsimp only
    split
    · rw [shift_scanFault, shift_fault]
    · split
      · exact shift_token n offset _ _ _ _
      · exact shift_token n offset _ _ _ _

theorem literal_shift (content : Text) :
    literal (offset + n) content = (literal offset content).shift n := by
  unfold literal
  dsimp only
  split
  · exact shift_fault n (.unterminatedString offset) _ _
  · rw [Nat.add_right_comm offset n 1, shift_scanFault, shift_fault]
  · exact shift_token n offset _ _ _ _

theorem number_shift (c : Char) (source : Text) :
    number (offset + n) c source = (number offset c source).shift n := by
  unfold number
  dsimp only
  split
  · exact shift_token n offset _ _ _ _
  · exact shift_token n offset _ _ _ _
  · exact shift_fault n (.malformedNumber _ offset) _ _

theorem function_shift (source : Text) :
    function (offset + n) source = (function offset source).shift n := by
  unfold function
  split
  · exact shift_token n offset _ _ _ _
  · exact shift_fault n (.invalidFunctionName offset) _ _

theorem close_shift (source : Text) :
    close (offset + n) source = (close offset source).shift n := by
  unfold close
  split
  · exact shift_fault n (.unterminatedTag offset) _ _
  · split
    · exact shift_token n offset _ _ _ _
    · exact shift_fault n (.malformedTagClose offset) _ _

theorem insideTagAt_shift (source : Text) :
    insideTagAt (offset + n) source = (insideTagAt offset source).shift n := by
  unfold insideTagAt
  split
  · exact shift_fault n (.unterminatedTag offset) _ _
  · rename_i c rest
    split
    · exact close_shift n offset rest
    split
    · exact literal_shift n offset rest
    split
    · exact function_shift n offset rest
    split
    · exact shift_token n offset _ _ _ _
    split
    · exact number_shift n offset c rest
    split
    · exact shift_token n offset _ _ _ _
    split
    · exact number_shift n offset c rest
    split
    · exact shift_token n offset _ _ _ _
    · exact shift_fault n (.disallowedCharacter c offset) _ _

theorem insideTag_shift (source : Text) :
    insideTag (offset + n) source = (insideTag offset source).shift n := by
  simp only [insideTag, Nat.add_right_comm offset n, insideTagAt_shift]
  rfl

theorem read_shift (m : Mode) (source : Text) :
    read m (offset + n) source = (read m offset source).shift n := by
  cases m with
  | outsideTag => exact outsideTag_shift n offset source
  | insideTag => exact insideTag_shift n offset source

end Lexeme

theorem itemsFrom_shift (n : Nat) (m : Mode) (offset : Nat) (source : Text) :
    itemsFrom m (offset + n) source = (itemsFrom m offset source).map (shiftItem n) := by
  have houtcome (m : Mode) (offset : Nat) (source : Text) :
      (Lexeme.read m (offset + n) source).outcome =
        shiftItem n (Lexeme.read m offset source).outcome :=
    congrArg Lexeme.outcome (Lexeme.read_shift n offset m source)
  induction m, offset, source using itemsFrom_induction with
  | @error m offset source e h =>
      have hshift := (houtcome m offset source).trans (congrArg _ h)
      simp [itemsFrom_of_error h, itemsFrom_of_error hshift]
  | @endOfInput m offset source t h hkind =>
      have hshift := (houtcome m offset source).trans (congrArg _ h)
      simp [itemsFrom_of_endOfInput h hkind, itemsFrom_of_endOfInput hshift hkind]
  | @token m offset source t h hkind ih =>
      have hshift := (houtcome m offset source).trans (congrArg _ h)
      rw [itemsFrom_of_token h hkind, itemsFrom_of_token hshift hkind, List.map_cons, ← ih,
        Lexeme.read_shift, Nat.add_right_comm]
      rfl

end TagMarkup
