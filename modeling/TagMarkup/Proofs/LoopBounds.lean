import Mathlib
import TagMarkup.Proofs.Rejection
import TagMarkup.Proofs.Rendering

namespace TagMarkup

/-- The ways to write a number as a bound: the numeral, and the numeral as the content of a string
literal. -/
inductive Number.WrittenAs (n : Number) : Text → Prop
  | plain {numeral : Text} (h : parse? numeral = some n) : n.WrittenAs numeral
  | quoted {numeral lexeme : Text} (h : parse? numeral = some n)
      (hlexeme : LiteralString lexeme numeral) : n.WrittenAs ('"' :: (lexeme ++ ['"']))

/-- A bound in a loop tag, with the white space in front of it. -/
structure WrittenBound where
  gap : Text
  lexeme : Text
  number : Number
  isGap : IsGap gap
  written : number.WrittenAs lexeme

namespace WrittenBound

def source (bound : WrittenBound) : Text :=
  bound.gap ++ bound.lexeme

theorem isWritten (bound : WrittenBound) :
    IsWritten (fun t (bound : WrittenBound) => t.Bounds bound.number) lexeme bound := by
  intro after hafter
  obtain ⟨gap, lexeme, n, hgap, hwritten⟩ := bound
  cases hwritten with
  | plain h =>
      exact ⟨n.tokenKind, some n.tokenValue, n.admits_tokenKind.1, n.admits_tokenKind.2,
        Number.spelling_of_parse? h hafter, n.bounds_token⟩
  | quoted h hlexeme =>
      exact ⟨.string, _, by decide, by decide, .string after hlexeme, .string h⟩

end WrittenBound

theorem yields_written_bounds {name : Text} (hname : isValidName name = true)
    (start stop : WrittenBound) (step : Option WrittenBound) {closing : Text}
    (hclosing : Blank closing) (after : Text) :
    Yields .outsideTag
      (loopTag name ((start :: stop :: step.toList).flatMap WrittenBound.source) ++
        (closing ++ '$' :: '}' :: after))
      (LoopHeader.Opens ⟨name, start.number, stop.number, step.map WrittenBound.number⟩)
      .outsideTag after :=
  yields_loopTag WrittenBound.gap WrittenBound.lexeme WrittenBound.number hname
    (fun bound _ => bound.isGap) (fun bound _ => bound.isWritten) hclosing after

namespace Document

theorem parse_invalid_bound (options : ParseOptions) {name : Text}
    (hname : isValidName name = true) {before : List WrittenBound} (hlength : before.length < 3)
    {gap lexeme content : Text} (hgap : IsGap gap) (hlexeme : LiteralString lexeme content)
    (hcontent : Number.parse? content = none) (rest : Text) :
    parse options (loopTag name (before.flatMap WrittenBound.source) ++
        (gap ++ '"' :: (lexeme ++ '"' :: rest))) =
      .error (.invalidBound ('"' :: content ++ ['"'])
        ((loopTag name (before.flatMap WrittenBound.source)).length + gap.length)) := by
  let offset := (loopTag name (before.flatMap WrittenBound.source)).length + gap.length
  let literal : Token := ⟨.string, some (.text content), offset⟩
  have hliteral : itemsFrom .insideTag offset ('"' :: (lexeme ++ '"' :: rest)) =
      .ok literal :: itemsFrom .insideTag (offset + (lexeme.length + 2)) rest := by
    have hitems := itemsFrom_insideTag offset (.string rest hlexeme) (by decide) (by decide)
    simpa using hitems
  obtain ⟨tokens, hreads, hbounds⟩ := exists_itemsFrom_loopTag WrittenBound.gap WrittenBound.lexeme
    WrittenBound.number hname hlength.le (fun bound _ => bound.isGap)
    (fun bound _ => bound.isWritten) (hgap.delimits ('"' :: (lexeme ++ '"' :: rest))) 0
  rw [Nat.zero_add, itemsFrom_gap hgap.blank] at hbounds
  have hitems := hbounds.trans (congrArg _ hliteral)
  obtain ⟨events, hsteps⟩ : ∃ events, Assembly.Steps .empty tokens events _ :=
    Assembly.steps_of_reads hreads
  have hrejects : Assembly.Rejects options
      ⟨[], [], .loopBounds 0 name (before.map WrittenBound.number)⟩ literal
      (.invalidBound ('"' :: content ++ ['"']) offset) :=
    .invalidBound rfl (by simp [literal]) (by simpa using hlength.ne) hcontent
  exact parse_eq_error_iff.mpr ⟨tokens, _, _, _, events, hitems, hsteps, .rejects hrejects⟩

theorem parse_written_loop (options : ParseOptions) {name : Text} (hname : isValidName name = true)
    (start stop : WrittenBound) (step : Option WrittenBound) {closing : Text}
    (hclosing : Blank closing) :
    parse options (loopTag name ((start :: stop :: step.toList).flatMap WrittenBound.source) ++
        (closing ++ ['$', '}']) ++ renderEnd) =
      .ok ⟨[.loop ⟨name, start.number, stop.number, step.map WrittenBound.number⟩ []]⟩ := by
  have hnothing : Yields .outsideTag renderEnd (Node.LinearisesAll []) .outsideTag
      (renderEnd ++ []) := fun offset => ⟨[], offset, .nil, rfl⟩
  have hloop := (yields_written_bounds hname start stop step hclosing renderEnd).loop hnothing
  rw [List.append_assoc, List.append_assoc]
  exact parse_of_yields (hloop.imp fun _ => .singleton)

/-- A loop whose bounds are written as numerals or as string literals, each as one likes, has the
numbers for its bounds; with a string literal that is no numeral for one of them, it is an error at
that literal. -/
theorem parse_written_bounds (options : ParseOptions) {name : Text}
    (hname : isValidName name = true) :
    (∀ (start stop : WrittenBound) (step : Option WrittenBound) (closing : Text),
      Blank closing →
      parse options (loopTag name ((start :: stop :: step.toList).flatMap WrittenBound.source) ++
          (closing ++ ['$', '}']) ++ renderEnd) =
        .ok ⟨[.loop ⟨name, start.number, stop.number, step.map WrittenBound.number⟩ []]⟩) ∧
    ∀ (before : List WrittenBound) (gap lexeme content rest : Text), before.length < 3 →
      IsGap gap → LiteralString lexeme content → Number.parse? content = none →
      parse options (loopTag name (before.flatMap WrittenBound.source) ++
          (gap ++ '"' :: (lexeme ++ '"' :: rest))) =
        .error (.invalidBound ('"' :: content ++ ['"'])
          ((loopTag name (before.flatMap WrittenBound.source)).length + gap.length)) :=
  ⟨fun start stop step _ => parse_written_loop options hname start stop step,
    fun _ _ _ _ rest hlength hgap hlexeme hcontent =>
      parse_invalid_bound options hname hlength hgap hlexeme hcontent rest⟩

/-- Leading zeros, a negative zero in quotes, and a quoted line end. -/
theorem parse_written_bounds_zeros :
    isValidName ['i'] = true ∧
    parse {} ['{', '$', 'F', 'O', 'R', ' ', 'i', ' ', '0', '0', '7', '\t', '"', '-', '0', '"', '$',
        '}', '{', '$', 'E', 'N', 'D', '$', '}'] =
      .ok ⟨[.loop ⟨['i'], .integer 7, .integer 0, none⟩ []]⟩ ∧
    parse {} ['{', '$', 'F', 'O', 'R', ' ', 'i', ' ', '0', '0', '7', ' ', '"', '1', '\\', 'n', '"'] =
      .error (.invalidBound ['"', '1', '\n', '"'] 12) := by
  have hname : isValidName ['i'] = true := by decide
  have htab : IsGap ['\t'] := .singleton (by decide)
  have hseven : Number.WrittenAs (.integer 7) ['0', '0', '7'] := .plain (by cbv)
  have hminus : LiteralString ['-', '0'] ['-', '0'] :=
    .plain (by decide) (by decide) (.plain (by decide) (by decide) .nil)
  have hzero : Number.WrittenAs (.integer 0) ['"', '-', '0', '"'] := .quoted (by cbv) hminus
  have hline : LiteralString ['1', '\\', 'n'] ['1', '\n'] :=
    .plain (by decide) (by decide) (.escape (by decide) .nil)
  have hbounds := parse_written_bounds {} hname
  exact ⟨hname, hbounds.1 ⟨_, _, _, isGap_blank, hseven⟩ ⟨_, _, _, htab, hzero⟩ none [] .nil,
    hbounds.2 [⟨_, _, _, isGap_blank, hseven⟩] [' '] _ _ [] (by simp) isGap_blank hline (by cbv)⟩

end Document

end TagMarkup
