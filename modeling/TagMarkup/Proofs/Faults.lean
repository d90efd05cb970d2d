import Mathlib
import TagMarkup.Proofs.Requests

namespace TagMarkup

open Unicode

/-- An odd number of backslashes stands at the end of the text, so that a backslash escapes what
comes after it. -/
def EndsInEscape (before : Text) : Prop :=
  ∃ front k, before = front ++ List.replicate (2 * k + 1) '\\' ∧ front.getLast? ≠ some '\\'

/-- The characters that a backslash can stand before. -/
def Mode.escapable : Mode → List Char
  | outsideTag => ['\\', '{']
  | insideTag => ['\\', '"', 'n', 'r', 't']

/-- The fault that an error reports is in the source, where the error says. -/
inductive Exhibits (source : Text) : Mode → LexError → Prop
  | invalidEscape {m : Mode} {c : Char} {offset : Nat} (hmark : source[offset]? = some '\\')
      (hnext : source[offset + 1]? = some c) (hc : c ∉ m.escapable) :
      Exhibits source m (.invalidEscape c offset)
  | unterminatedEscape {m : Mode} {offset : Nat} (hmark : source[offset]? = some '\\')
      (hlast : offset + 1 = source.length) : Exhibits source m (.unterminatedEscape offset)
  | unterminatedTag {offset : Nat}
      (hend : offset = source.length ∨ offset + 1 = source.length ∧ source[offset]? = some '$') :
      Exhibits source .insideTag (.unterminatedTag offset)
  | unterminatedString {offset : Nat} (hmark : source[offset]? = some '"')
      (hopen : ∀ before after, source.drop (offset + 1) = before ++ '"' :: after →
        EndsInEscape before) :
      Exhibits source .insideTag (.unterminatedString offset)
  | malformedTagClose {c : Char} {offset : Nat} (hmark : source[offset]? = some '$')
      (hnext : source[offset + 1]? = some c) (hc : c ≠ '}') :
      Exhibits source .insideTag (.malformedTagClose offset)
  | invalidFunctionName {offset : Nat} (hmark : source[offset]? = some '@')
      (hnext : ∀ c, source[offset + 1]? = some c → isNameStart c = false) :
      Exhibits source .insideTag (.invalidFunctionName offset)
  | disallowedCharacter {c : Char} {offset : Nat} (hc : source[offset]? = some c)
      (hblank : isWhiteSpace c = false)
      (htoken : ∀ kind value lexeme after, Mode.insideTag.Admits kind →
        ¬Spelling kind value (c :: lexeme) after) :
      Exhibits source .insideTag (.disallowedCharacter c offset)
  | malformedNumber {run after : Text} {offset : Nat} (hrun : source.drop offset = run ++ after)
      (hnumeral : IsNumeral after run) (hvalue : Number.parse? run = none) :
      Exhibits source .insideTag (.malformedNumber run offset)
  | pastEndOfInput {m : Mode} {offset : Nat} (hend : offset = source.length) :
      Exhibits source m (.pastEndOfInput offset)

/-! String literals that are not closed. -/

theorem endsInEscape_singleton : EndsInEscape ['\\'] :=
  ⟨[], 0, rfl, by simp⟩

theorem EndsInEscape.cons {before : Text} (h : EndsInEscape before) {c : Char} (hc : c ≠ '\\') :
    EndsInEscape (c :: before) := by
  obtain ⟨front, k, rfl, hfront⟩ := h
  refine ⟨c :: front, k, rfl, ?_⟩
  cases front with
  | nil => simpa using hc
  | cons d front => simpa using hfront

theorem EndsInEscape.cons_escape {before : Text} (h : EndsInEscape before) (c : Char) :
    EndsInEscape ('\\' :: c :: before) := by
  obtain ⟨front, k, rfl, hfront⟩ := h
  cases front with
  | nil =>
      by_cases hc : c = '\\'
      · subst hc
        exact ⟨[], k + 1, by simp [Nat.mul_succ, List.replicate_succ], by simp⟩
      · exact ⟨['\\', c], k, rfl, by simpa using hc⟩
  | cons d front => exact ⟨'\\' :: c :: d :: front, k, rfl, by simpa using hfront⟩

/-- Every quote in the content of a string literal is escaped. -/
theorem LiteralString.endsInEscape {lexeme content : Text} (h : LiteralString lexeme content)
    {before after : Text} (hsplit : lexeme = before ++ '"' :: after) : EndsInEscape before := by
  induction h generalizing before with
  | nil => simp at hsplit
  | @escape c d lexeme content hc hrest ih =>
      match before with
      | [] => simp at hsplit
      | [b] =>
          obtain rfl : b = '\\' := (List.cons_eq_cons.mp hsplit).1.symm
          exact endsInEscape_singleton
      | b :: b' :: before =>
          simp only [List.cons_append, List.cons_eq_cons] at hsplit
          obtain ⟨rfl, rfl, hsplit⟩ := hsplit
          exact (ih hsplit).cons_escape c
  | @plain c lexeme content hquote hescape hrest ih =>
      match before with
      | [] => exact (hquote (List.cons_eq_cons.mp hsplit).1).elim
      | b :: before =>
          simp only [List.cons_append, List.cons_eq_cons] at hsplit
          obtain ⟨rfl, hsplit⟩ := hsplit
          exact (ih hsplit).cons hescape

/-! Runs with escapes, up to a fault. -/

theorem scanText_rest_eq_drop (source : Text) :
    (scanText source).rest = source.drop (scanText source).width := by
  fun_induction scanText source <;> simp_all [Scan.stop]

theorem scanLiteral_rest_eq_drop (source : Text) :
    (scanLiteral source).rest = source.drop (scanLiteral source).width := by
  fun_induction scanLiteral source <;> simp_all [Scan.stop]

/-- What is left of a run that stops at a fault. -/
inductive ScanFault.StopsAt (m : Mode) : ScanFault → Text → Prop
  | invalidEscape {c : Char} {tail : Text} (hc : c ∉ m.escapable) :
      StopsAt m (.invalidEscape c) ('\\' :: c :: tail)
  | unterminatedEscape : StopsAt m .unterminatedEscape ['\\']

theorem stopsAt_of_scanText {source : Text} {f : ScanFault} (h : (scanText source).fault = some f) :
    f.StopsAt .outsideTag (scanText source).rest := by
  fun_induction scanText source with
  | case1 => contradiction
  | case2 =>
      obtain rfl := Option.some.inj h
      exact .unterminatedEscape
  | case3 e tail hescape ih => exact ih h
  | case4 e tail hescape =>
      obtain rfl := Option.some.inj h
      refine .invalidEscape ?_
      simpa [isTextEscape, Mode.escapable] using hescape
  | case5 => contradiction
  | case6 c rest hc htag ih => exact ih h

theorem stopsAt_of_scanLiteral {source : Text} {f : ScanFault}
    (h : (scanLiteral source).fault = some f) (hclosed : f ≠ .unclosed) :
    f.StopsAt .insideTag (scanLiteral source).rest := by
  fun_induction scanLiteral source with
  | case1 => exact (hclosed (Option.some.inj h).symm).elim
  | case2 => contradiction
  | case3 =>
      obtain rfl := Option.some.inj h
      exact .unterminatedEscape
  | case4 e tail d hescape hquote ih => exact ih h
  | case5 e tail hescape =>
      obtain rfl := Option.some.inj h
      refine .invalidEscape fun hmem => ?_
      simp only [Mode.escapable, List.mem_cons, List.not_mem_nil, or_false] at hmem
      obtain rfl | rfl | rfl | rfl | rfl := hmem
      all_goals simp [literalEscape?] at hescape
  | case6 c rest hquote hescape ih => exact ih h

theorem literalString_of_unclosed {source : Text}
    (h : (scanLiteral source).fault = some .unclosed) :
    LiteralString source (scanLiteral source).text := by
  fun_induction scanLiteral source with
  | case1 => exact .nil
  | case2 => contradiction
  | case3 => contradiction
  | case4 e tail d hescape hquote ih =>
      exact .escape (literalEscape?_eq_some_iff.mp hescape) (ih h)
  | case5 => cases h
  | case6 c rest hquote hescape ih => exact .plain hquote hescape (ih h)

/-! What the source shows, from the place that a fault leaves. -/

theorem getElem?_of_drop {source tail : Text} {offset : Nat} {c : Char}
    (h : source.drop offset = c :: tail) : source[offset]? = some c := by
  rw [← List.head?_drop, h, List.head?_cons]

theorem drop_succ_of_drop {source tail : Text} {offset : Nat} {c : Char}
    (h : source.drop offset = c :: tail) : source.drop (offset + 1) = tail := by
  rw [← List.tail_drop, h, List.tail_cons]

theorem length_of_drop {source tail : Text} {offset : Nat} {c : Char}
    (h : source.drop offset = c :: tail) : offset + (tail.length + 1) = source.length := by
  have hlength := congrArg List.length h
  rw [List.length_drop, List.length_cons] at hlength
  omega

theorem exhibits_of_stopsAt {m : Mode} {f : ScanFault} {source : Text} {offset : Nat}
    (h : f.StopsAt m (source.drop offset)) : Exhibits source m (f.error offset) := by
  generalize hrest : source.drop offset = rest at h
  cases h with
  | invalidEscape hc =>
      exact .invalidEscape (getElem?_of_drop hrest) (getElem?_of_drop (drop_succ_of_drop hrest)) hc
  | unterminatedEscape => exact .unterminatedEscape (getElem?_of_drop hrest) (length_of_drop hrest)

/-- The first character of a token inside a tag tells its kind. -/
theorem Spelling.head_cases {kind : TokenKind} {value : Option TokenValue} {c : Char}
    {lexeme after : Text} (h : Spelling kind value (c :: lexeme) after)
    (hmode : Mode.insideTag.Admits kind) :
    c ∈ ['$', '=', '@', '"'] ∨ isOperator c = true ∨ c.isDigit = true ∨ isNameStart c = true := by
  have hnumeral (hrun : IsNumeral after (c :: lexeme)) :
      isOperator c = true ∨ c.isDigit = true := by
    obtain ⟨sign, d, run, rfl | rfl, hlexeme, hdigit, -⟩ := hrun
    · obtain ⟨rfl, -⟩ := List.cons_eq_cons.mp hlexeme
      exact .inr hdigit
    · obtain ⟨rfl, -⟩ := List.cons_eq_cons.mp hlexeme
      exact .inl rfl
  cases h with
  | tagOpen | text => simp [Mode.Admits] at hmode
  | tagClose | equals | function | string => simp
  | name hrun => exact .inr (.inr (.inr hrun.1))
  | integer hrun hvalue => exact .inr ((hnumeral hrun).imp_right .inl)
  | double hrun hvalue => exact .inr ((hnumeral hrun).imp_right .inl)
  | operator hc hminus => exact .inr (.inl (isOperator_iff.mpr hc))

namespace Lexeme

/-- If there is an error, the source exhibits it, and what is left is what was not passed over. -/
def Truthful (x : Lexeme) (m : Mode) (offset : Nat) (source : Text) : Prop :=
  ∀ e, x.outcome = .error e → Exhibits source m e ∧ x.rest = source.drop (offset + x.width)

variable {m : Mode} {source tail : Text} {offset : Nat}

theorem truthful_token (kind : TokenKind) (value : Option TokenValue) (start width : Nat)
    (rest : Text) : (token kind value start width rest).Truthful m offset source :=
  nofun

theorem truthful_fault {e : LexError} {width : Nat} {rest : Text} (h : Exhibits source m e)
    (hrest : source.drop (offset + width) = rest) :
    (fault e width rest).Truthful m offset source := by
  rintro _ ⟨⟩
  exact ⟨h, hrest.symm⟩

theorem outsideTag_truthful (source : Text) (offset : Nat) :
    (outsideTag offset (source.drop offset)).Truthful .outsideTag offset source := by
  unfold outsideTag
  split
  · exact truthful_token _ _ _ _ _
  · dsimp only
    have hrest := scanText_rest_eq_drop (source.drop offset)
    rw [List.drop_drop] at hrest
    split
    · rename_i f hfault
      have hstops := stopsAt_of_scanText hfault
      rw [hrest] at hstops
      exact truthful_fault (exhibits_of_stopsAt hstops) hrest.symm
    · split <;> exact truthful_token _ _ _ _ _

theorem literal_truthful (h : source.drop offset = '"' :: tail) :
    (literal offset tail).Truthful .insideTag offset source := by
  have hrest := scanLiteral_rest_eq_drop tail
  rw [← drop_succ_of_drop h, List.drop_drop, drop_succ_of_drop h] at hrest
  unfold literal
  dsimp only
  split
  · rename_i hfault
    refine truthful_fault (.unterminatedString (getElem?_of_drop h) ?_) ?_
    · intro before after hsplit
      rw [drop_succ_of_drop h] at hsplit
      exact (literalString_of_unclosed hfault).endsInEscape hsplit
    · rw [hrest, Nat.add_assoc]
  · rename_i f hclosed hfault
    have hstops := stopsAt_of_scanLiteral hfault hclosed
    rw [hrest] at hstops
    exact truthful_fault (exhibits_of_stopsAt hstops) (by rw [hrest, Nat.add_assoc])
  · exact truthful_token _ _ _ _ _

theorem number_truthful {c : Char} (h : source.drop offset = c :: tail)
    (hc : c.isDigit = true ∨ c = '-' ∧ tail.head?.any Char.isDigit = true) :
    (number offset c tail).Truthful .insideTag offset source := by
  have hrun : source.drop offset =
      (c :: tail.takeWhile isNumberRest) ++ tail.dropWhile isNumberRest := by
    rw [h, List.cons_append, List.takeWhile_append_dropWhile]
  unfold number
  dsimp only
  split
  · exact truthful_token _ _ _ _ _
  · exact truthful_token _ _ _ _ _
  · rename_i hvalue
    refine truthful_fault (.malformedNumber hrun (isNumeral_takeWhile hc) hvalue) ?_
    rw [← List.drop_drop, hrun, List.drop_left]

theorem function_truthful (h : source.drop offset = '@' :: tail) :
    (function offset tail).Truthful .insideTag offset source := by
  unfold function
  split
  · exact truthful_token _ _ _ _ _
  · rename_i hstart
    refine truthful_fault (.invalidFunctionName (getElem?_of_drop h) fun c hc => ?_) h
    rw [← List.head?_drop, drop_succ_of_drop h] at hc
    simpa [hc] using hstart

theorem close_truthful (h : source.drop offset = '$' :: tail) :
    (close offset tail).Truthful .insideTag offset source := by
  unfold close
  split
  · exact truthful_fault (.unterminatedTag (.inr ⟨length_of_drop h, getElem?_of_drop h⟩)) h
  · rename_i c rest
    split
    · exact truthful_token _ _ _ _ _
    · rename_i hc
      exact truthful_fault (.malformedTagClose (getElem?_of_drop h)
        (getElem?_of_drop (drop_succ_of_drop h)) hc) h

theorem insideTagAt_truthful (hle : offset ≤ source.length)
    (hblank : (source.drop offset).head?.any isWhiteSpace = false) :
    (insideTagAt offset (source.drop offset)).Truthful .insideTag offset source := by
  generalize h : source.drop offset = text at hblank ⊢
  unfold insideTagAt
  split
  · refine truthful_fault (.unterminatedTag (.inl ?_)) h
    have hend := List.drop_eq_nil_iff.mp h
    omega
  · rename_i c rest
    split
    · subst_vars; exact close_truthful h
    split
    · subst_vars; exact literal_truthful h
    split
    · subst_vars; exact function_truthful h
    split
    · exact truthful_token _ _ _ _ _
    split
    · rename_i hminus
      exact number_truthful h (.inr hminus)
    split
    · exact truthful_token _ _ _ _ _
    split
    · rename_i hdigit
      exact number_truthful h (.inl hdigit)
    split
    · exact truthful_token _ _ _ _ _
    · rename_i hdollar hquote hat hequals hminus hoperator hdigit hletter
      refine truthful_fault (.disallowedCharacter (getElem?_of_drop h) (by simpa using hblank) ?_) h
      intro kind value lexeme after hmode hspelling
      rcases hspelling.head_cases hmode with hmark | hmark | hmark | hmark
      · simp [hdollar, hequals, hat, hquote] at hmark
      · exact hoperator hmark
      · exact hdigit hmark
      · exact hletter hmark

theorem drop_gap (source : Text) (offset : Nat) :
    source.drop (offset + ((source.drop offset).takeWhile isWhiteSpace).length) =
      (source.drop offset).dropWhile isWhiteSpace := by
  rw [← List.drop_drop]
  conv =>
    lhs; arg 2
    rw [← List.takeWhile_append_dropWhile (p := isWhiteSpace) (l := source.drop offset)]
  rw [List.drop_left]

theorem insideTag_truthful (hle : offset ≤ source.length) :
    (insideTag offset (source.drop offset)).Truthful .insideTag offset source := by
  have hgap := drop_gap source offset
  have hlength := (List.takeWhile_prefix isWhiteSpace (l := source.drop offset)).length_le
  rw [List.length_drop] at hlength
  have hblank := head?_dropWhile_any isWhiteSpace (source.drop offset)
  rw [← hgap] at hblank
  intro e herror
  rw [insideTag, ← hgap] at herror ⊢
  obtain ⟨hexhibits, hrest⟩ := insideTagAt_truthful (by omega) hblank e herror
  exact ⟨hexhibits, hrest.trans (congrArg source.drop (Nat.add_assoc _ _ _))⟩

theorem read_truthful (m : Mode) (hle : offset ≤ source.length) :
    (read m offset (source.drop offset)).Truthful m offset source := by
  cases m with
  | outsideTag => exact outsideTag_truthful source offset
  | insideTag => exact insideTag_truthful hle

/-- What is left after a token or an error is what was not passed over. -/
theorem read_rest_eq_drop (m : Mode) (hle : offset ≤ source.length) :
    (read m offset (source.drop offset)).rest =
      source.drop (offset + (read m offset (source.drop offset)).width) := by
  cases hread : (read m offset (source.drop offset)).outcome with
  | error e => exact (read_truthful m hle e hread).2
  | ok t =>
      obtain ⟨gap, lexeme, hsource, -, -, -, hwidth, -⟩ := exists_spelling_of_read hread
      rw [hwidth, ← List.drop_drop]
      conv => rhs; rw [hsource, ← List.append_assoc, ← List.length_append, List.drop_left]

end Lexeme

namespace Lexer

variable {source : Text} {lx moved : Lexer}

/-- What is left is what lies from the offset on. -/
structure StandsIn (lx : Lexer) (source : Text) : Prop where
  rest_eq : lx.rest = source.drop lx.offset
  offset_le : lx.offset ≤ source.length

theorem standsIn_ofSource (source : Text) : (ofSource source).StandsIn source :=
  ⟨rfl, Nat.zero_le _⟩

namespace StandsIn

theorem length (h : lx.StandsIn source) : lx.offset + lx.rest.length = source.length := by
  have hle := h.offset_le
  rw [h.rest_eq, List.length_drop]
  omega

theorem pass (h : lx.StandsIn source) : lx.pass.StandsIn source where
  rest_eq := by
    have hrest := Lexeme.read_rest_eq_drop lx.mode h.offset_le
    rwa [← h.rest_eq] at hrest
  offset_le := by
    have hconserves := Lexeme.read_conserves lx.mode lx.offset lx.rest
    have hlength := h.length
    unfold Lexeme.Conserves at hconserves
    simp only [Lexer.pass]
    omega

theorem of_answers {r : Request} {item : Option (Except LexError Token)} (h : lx.StandsIn source)
    (hanswer : Answers lx r item moved) : moved.StandsIn source := by
  cases hanswer with
  | token => exact ⟨h.pass.rest_eq, h.pass.offset_le⟩
  | tokenError => exact h.pass
  | itemError => exact ⟨h.pass.rest_eq, h.pass.offset_le⟩
  | finished => exact h
  | closed => exact h

theorem after (h : lx.StandsIn source) (rs : List Request) : (lx.after rs).StandsIn source := by
  induction rs generalizing lx with
  | nil => exact h
  | cons r rs ih => exact ih (h.of_answers (lx.answers r))

end StandsIn

/-- However a lexer was used before, an error that it gives for the next token is exhibited by the
source. -/
theorem exhibits_of_nextToken (source : Text) (rs : List Request) {e : LexError}
    (h : ((ofSource source).after rs).nextToken.1 = .error e) :
    Exhibits source ((ofSource source).after rs).mode e := by
  have haccount := (account_ofSource source).after rs
  have hstands := (standsIn_ofSource source).after rs
  generalize (ofSource source).after rs = lx at *
  have hanswer := answers_nextToken h
  generalize lx.nextToken.2 = moved at hanswer
  cases hanswer with
  | tokenError hlive hread =>
      rw [hstands.rest_eq] at hread
      exact (Lexeme.read_truthful lx.mode hstands.offset_le e hread).1
  | finished hfinished => exact .pastEndOfInput (haccount.finished hfinished)

/-- After an error that leaves the lexer within a string literal, the next one is at the backslash
there. -/
theorem exhibits_backslash_after_error :
    ((ofSource "\x7b$ \"a\\q".toList).after [.token, .token]).nextToken.1 =
        .error (.disallowedCharacter '\\' 5) ∧
      Exhibits "\x7b$ \"a\\q".toList .insideTag (.disallowedCharacter '\\' 5) := by
  have herror : ((ofSource "\x7b$ \"a\\q".toList).after [.token, .token]).nextToken.1 =
      .error (.disallowedCharacter '\\' 5) := by cbv
  have hmode : ((ofSource "\x7b$ \"a\\q".toList).after [.token, .token]).mode = .insideTag := by
    cbv
  refine ⟨herror, ?_⟩
  rw [← hmode]
  exact exhibits_of_nextToken _ _ herror

end Lexer

end TagMarkup
