import Mathlib.Data.List.Infix
import TagMarkup.Proofs.Characters
import TagMarkup.Proofs.Number
import TagMarkup.Token.Progress

namespace TagMarkup

open Unicode

/-- Literal text, character by character: a backslash or an opening brace stands after a backslash,
any other character stands for itself, unless a tag opens there. -/
inductive LiteralText (after : Text) : Text → Text → Prop
  | nil : LiteralText after [] []
  | escape {c : Char} {lexeme content : Text} (hc : c = '\\' ∨ c = '{')
      (hrest : LiteralText after lexeme content) :
      LiteralText after ('\\' :: c :: lexeme) (c :: content)
  | plain {c : Char} {lexeme content : Text} (hc : c ≠ '\\')
      (htag : ¬['{', '$'] <+: c :: (lexeme ++ after))
      (hrest : LiteralText after lexeme content) :
      LiteralText after (c :: lexeme) (c :: content)

/-- What stands between the quotes of a string literal, and the content that it stands for. -/
inductive LiteralString : Text → Text → Prop
  | nil : LiteralString [] []
  | escape {c d : Char} {lexeme content : Text}
      (hc : (c, d) ∈ [('\\', '\\'), ('"', '"'), ('n', '\n'), ('r', '\r'), ('t', '\t')])
      (hrest : LiteralString lexeme content) :
      LiteralString ('\\' :: c :: lexeme) (d :: content)
  | plain {c : Char} {lexeme content : Text} (hquote : c ≠ '"') (hescape : c ≠ '\\')
      (hrest : LiteralString lexeme content) :
      LiteralString (c :: lexeme) (c :: content)

/-- A letter, and letters, digits and underscores, which `after` does not go on with. -/
def IsWord (after : Text) : Text → Prop
  | [] => False
  | c :: run => isNameStart c = true ∧ (∀ d ∈ run, isNameRest d = true) ∧
      after.head?.any isNameRest = false

/-- A digit, or a minus sign and a digit, and digits and points, which `after` does not go on
with. -/
def IsNumeral (after lexeme : Text) : Prop :=
  ∃ sign c run, (sign = [] ∨ sign = ['-']) ∧ lexeme = sign ++ c :: run ∧ c.isDigit = true ∧
    (∀ d ∈ run, isNumberRest d = true) ∧ after.head?.any isNumberRest = false

/-- The characters that spell a token of a kind and a value, before a text that comes after. -/
inductive Spelling : TokenKind → Option TokenValue → Text → Text → Prop
  | tagOpen (after : Text) : Spelling .tagOpen none ['{', '$'] after
  | tagClose (after : Text) : Spelling .tagClose none ['$', '}'] after
  | endOfInput : Spelling .endOfInput none [] []
  | text {lexeme content after : Text} (hrun : LiteralText after lexeme content)
      (hne : lexeme ≠ []) (hend : after = [] ∨ ['{', '$'] <+: after) :
      Spelling .text (some (.text content)) lexeme after
  | equals (after : Text) : Spelling .name (some (.text ['='])) ['='] after
  | name {lexeme after : Text} (hrun : IsWord after lexeme) :
      Spelling .name (some (.text lexeme)) lexeme after
  | function {lexeme after : Text} (hrun : IsWord after lexeme) :
      Spelling .function (some (.text lexeme)) ('@' :: lexeme) after
  | integer {lexeme after : Text} {value : Int64} (hrun : IsNumeral after lexeme)
      (hvalue : Number.parse? lexeme = some (.integer value)) :
      Spelling .integer (some (.integer value)) lexeme after
  | double {lexeme after : Text} {value : Binary64} (hrun : IsNumeral after lexeme)
      (hvalue : Number.parse? lexeme = some (.double value)) :
      Spelling .double (some (.double value)) lexeme after
  | operator {c : Char} {after : Text} (hc : c ∈ ['+', '-', '*', '/', '^'])
      (hminus : c = '-' → after.head?.any Char.isDigit = false) :
      Spelling .operator (some (.char c)) [c] after
  | string {lexeme content : Text} (after : Text) (hrun : LiteralString lexeme content) :
      Spelling .string (some (.text content)) ('"' :: (lexeme ++ ['"'])) after

theorem IsNumeral.ne_nil {after lexeme : Text} (h : IsNumeral after lexeme) : lexeme ≠ [] := by
  obtain ⟨sign, c, run, -, rfl, -⟩ := h
  exact List.append_ne_nil_of_right_ne_nil sign (List.cons_ne_nil c run)

theorem Spelling.lexeme_ne_nil {kind : TokenKind} {value : Option TokenValue} {lexeme after : Text}
    (h : Spelling kind value lexeme after) (hkind : kind ≠ .endOfInput) : lexeme ≠ [] := by
  rintro rfl
  cases h with
  | endOfInput => exact hkind rfl
  | text hrun hne => exact hne rfl
  | name hrun => exact hrun
  | integer hrun => exact hrun.ne_nil rfl
  | double hrun => exact hrun.ne_nil rfl

theorem Spelling.lexeme_of_tagOpen {value : Option TokenValue} {lexeme after : Text}
    (h : Spelling .tagOpen value lexeme after) : lexeme = ['{', '$'] := by
  cases h
  rfl

namespace Number

def tokenKind : Number → TokenKind
  | integer _ => .integer
  | double _ => .double

def tokenValue : Number → TokenValue
  | integer value => .integer value
  | double value => .double value

end Number

/-- Whether tokens of a kind stand in a mode: text, the mark that opens a tag and the end of the
input outside tags, and all others inside them. -/
def Mode.Admits : Mode → TokenKind → Prop
  | .outsideTag, kind => kind = .text ∨ kind = .tagOpen ∨ kind = .endOfInput
  | .insideTag, kind => kind ≠ .text ∧ kind ≠ .tagOpen ∧ kind ≠ .endOfInput

instance (m : Mode) (kind : TokenKind) : Decidable (m.Admits kind) := by
  cases m <;> unfold Mode.Admits <;> infer_instance

theorem opensTag_iff_starts {source : Text} :
    opensTag source = true ↔ ['{', '$'] <+: source := by
  rw [opensTag_iff]
  constructor
  · rintro ⟨rest, rfl⟩
    exact ⟨rest, rfl⟩
  · rintro ⟨rest, rfl⟩
    exact ⟨rest, rfl⟩

/-! What comes after a token matters to its spelling by one character, and after a text by two. -/

theorem head?_any_append {common : Text} (hne : common ≠ []) (after : Text) (p : Char → Bool) :
    (common ++ after).head?.any p = common.head?.any p := by
  obtain ⟨c, rest, rfl⟩ := List.exists_cons_of_ne_nil hne
  rfl

section After

variable {kind : TokenKind} {value : Option TokenValue} {common lexeme after after' : Text}

theorem IsWord.of_stop (h : IsWord after lexeme) (hstop : after'.head?.any isNameRest = false) :
    IsWord after' lexeme := by
  cases lexeme with
  | nil => exact h
  | cons c run => exact ⟨h.1, h.2.1, hstop⟩

theorem IsWord.stop (h : IsWord after lexeme) : after.head?.any isNameRest = false := by
  cases lexeme with
  | nil => exact h.elim
  | cons c run => exact h.2.2

theorem IsNumeral.of_stop (h : IsNumeral after lexeme)
    (hstop : after'.head?.any isNumberRest = false) : IsNumeral after' lexeme := by
  obtain ⟨sign, c, run, hsign, hlexeme, hdigit, hrun, -⟩ := h
  exact ⟨sign, c, run, hsign, hlexeme, hdigit, hrun, hstop⟩

theorem IsNumeral.stop (h : IsNumeral after lexeme) : after.head?.any isNumberRest = false := by
  obtain ⟨sign, c, run, -, -, -, -, hstop⟩ := h
  exact hstop

theorem LiteralText.replace_after {content : Text}
    (h : LiteralText (common ++ after) lexeme content) (hne : common ≠ []) :
    LiteralText (common ++ after') lexeme content := by
  induction h with
  | nil => exact .nil
  | escape hc hrest ih => exact .escape hc ih
  | @plain c lexeme content hc htag hrest ih =>
      have hcommon := List.length_pos_iff.mpr hne
      have hlength : ['{', '$'].length ≤ (c :: (lexeme ++ common)).length := by
        simp only [List.length_cons, List.length_append, List.length_nil]
        omega
      refine .plain hc ?_ ih
      rw [← List.append_assoc, ← List.cons_append, List.isPrefix_append_of_length hlength] at htag ⊢
      exact htag

/-- A token inside a tag may stand before any text that stops all runs which the text after it
stops. -/
theorem Spelling.of_stops (h : Spelling kind value lexeme after) (htext : kind ≠ .text)
    (hend : kind ≠ .endOfInput)
    (hstops : ∀ p ∈ [isNameRest, isNumberRest, Char.isDigit], after.head?.any p = false →
      after'.head?.any p = false) : Spelling kind value lexeme after' := by
  simp only [List.forall_mem_cons] at hstops
  obtain ⟨hname, hnumber, hdigit, -⟩ := hstops
  cases h with
  | tagOpen => exact .tagOpen _
  | tagClose => exact .tagClose _
  | endOfInput => contradiction
  | text => contradiction
  | equals => exact .equals _
  | name hrun => exact .name (hrun.of_stop (hname hrun.stop))
  | function hrun => exact .function (hrun.of_stop (hname hrun.stop))
  | integer hrun hvalue => exact .integer (hrun.of_stop (hnumber hrun.stop)) hvalue
  | double hrun hvalue => exact .double (hrun.of_stop (hnumber hrun.stop)) hvalue
  | operator hc hminus => exact .operator hc fun hc' => hdigit (hminus hc')
  | string _ hrun => exact .string _ hrun

theorem Spelling.replace_after (h : Spelling kind value lexeme (common ++ after))
    (hne : common ≠ []) (htwo : kind = .text → 2 ≤ common.length) :
    Spelling kind value lexeme (common ++ after') := by
  by_cases htext : kind = .text
  · subst htext
    generalize hall : common ++ after = all at h
    cases h with
    | text hrun hnonempty hend =>
        subst hall
        have hopens := hend.resolve_left (List.append_ne_nil_of_left_ne_nil hne after)
        have hlength : ['{', '$'].length ≤ common.length := htwo rfl
        rw [List.isPrefix_append_of_length hlength] at hopens
        exact .text (hrun.replace_after hne) hnonempty
          (.inr (hopens.trans (List.prefix_append common after')))
  · refine h.of_stops htext ?_ fun p _ hp => ?_
    · rintro rfl
      generalize hall : common ++ after = all at h
      cases h
      exact hne (List.append_eq_nil_iff.mp hall).1
    · rw [head?_any_append hne] at hp ⊢
      exact hp

/-- A text that no name and no number goes on with. -/
structure Closes (after : Text) : Prop where
  name : after.head?.any isNameRest = false
  number : after.head?.any isNumberRest = false

theorem Closes.nil : Closes [] :=
  ⟨rfl, rfl⟩

theorem Closes.cons {c : Char} (hname : isNameRest c = false) (hnumber : isNumberRest c = false)
    (rest : Text) : Closes (c :: rest) :=
  ⟨hname, hnumber⟩

theorem Closes.digit (h : Closes after) : after.head?.any Char.isDigit = false := by
  cases after with
  | nil => rfl
  | cons c rest =>
      have hnumber : isNumberRest c = false := by simpa using h.number
      simp only [isNumberRest, Bool.or_eq_false_iff] at hnumber
      simpa using hnumber.1

theorem Spelling.before_closes (h : Spelling kind value lexeme after) (htext : kind ≠ .text)
    (hend : kind ≠ .endOfInput) (hafter : Closes after') : Spelling kind value lexeme after' := by
  refine h.of_stops htext hend ?_
  simp [hafter.name, hafter.number, hafter.digit]

end After

/-! What is spelled is read. -/

theorem LiteralText.scanText_append {after lexeme content : Text}
    (h : LiteralText after lexeme content) :
    scanText (lexeme ++ after) = ⟨content ++ (scanText after).text,
      (scanText after).width + lexeme.length, (scanText after).rest, (scanText after).fault⟩ := by
  induction h with
  | nil => rfl
  | @escape c lexeme content hc _ ih =>
      have hescape : isTextEscape c = true := by simpa [isTextEscape] using hc
      rw [List.cons_append, List.cons_append, scanText_escape hescape, ih]
      rfl
  | @plain c lexeme content hc htag _ ih =>
      rw [← opensTag_iff_starts, Bool.not_eq_true] at htag
      rw [List.cons_append, scanText_plain hc htag, ih]
      rfl

theorem LiteralText.scanText_eq {after lexeme content : Text}
    (h : LiteralText after lexeme content) (hend : after = [] ∨ ['{', '$'] <+: after) :
    scanText (lexeme ++ after) = ⟨content, lexeme.length, after, none⟩ := by
  have hstop : scanText after = .stop after none := by
    obtain rfl | ⟨rest, rfl⟩ := hend
    · rfl
    · exact scanText_tag rest
  simp [h.scanText_append, hstop, Scan.stop]

theorem LiteralText.opensTag_eq_false {after lexeme content : Text}
    (h : LiteralText after lexeme content) (hne : lexeme ≠ []) :
    opensTag (lexeme ++ after) = false := by
  cases h with
  | nil => contradiction
  | escape hc hrest => rfl
  | plain hc htag hrest =>
      rw [← opensTag_iff_starts, Bool.not_eq_true] at htag
      exact htag

theorem LiteralText.content_eq_nil_iff {after lexeme content : Text}
    (h : LiteralText after lexeme content) : content = [] ↔ lexeme = [] := by
  cases h <;> simp

theorem LiteralString.scanLiteral_eq {lexeme content : Text} (h : LiteralString lexeme content)
    (after : Text) :
    scanLiteral (lexeme ++ '"' :: after) = ⟨content, lexeme.length + 1, after, none⟩ := by
  induction h with
  | nil => exact scanLiteral_quote after
  | @escape c d lexeme content hc _ ih =>
      have hescape : literalEscape? c = some d := literalEscape?_eq_some_iff.mpr hc
      rw [List.cons_append, List.cons_append, scanLiteral_escape hescape, ih]
      rfl
  | @plain c lexeme content hquote hescape _ ih =>
      rw [List.cons_append, scanLiteral_plain hquote hescape, ih]
      rfl

namespace Lexeme

theorem insideTagAt_of_isNameStart (offset : Nat) {c : Char} (hc : isNameStart c = true)
    (rest : Text) : insideTagAt offset (c :: rest) = name offset c rest := by
  have hne (d : Char) (hd : isNameStart d = false) : c ≠ d := by
    rintro rfl
    simp [hd] at hc
  have hdigit : c.isDigit = false := by
    rw [Bool.eq_false_iff]
    intro hdigit
    simp [not_isNameStart_of_isDigit hdigit] at hc
  have hoperator : isOperator c = false := by
    simp [isOperator, hne '+' (by decide), hne '-' (by decide), hne '*' (by decide),
      hne '/' (by decide), hne '^' (by decide)]
  simp [insideTagAt, hne '$' (by decide), hne '"' (by decide), hne '@' (by decide),
    hne '=' (by decide), hne '-' (by decide), hoperator, hdigit, hc]

theorem insideTagAt_of_isDigit (offset : Nat) {c : Char} (hc : c.isDigit = true) (rest : Text) :
    insideTagAt offset (c :: rest) = number offset c rest := by
  have hne (d : Char) (hd : d.isDigit = false) : c ≠ d := by
    rintro rfl
    simp [hd] at hc
  have hoperator : isOperator c = false := by
    simp [isOperator, hne '+' (by decide), hne '-' (by decide), hne '*' (by decide),
      hne '/' (by decide), hne '^' (by decide)]
  simp [insideTagAt, hne '$' (by decide), hne '"' (by decide), hne '@' (by decide),
    hne '=' (by decide), hne '-' (by decide), hoperator, hc]

theorem insideTagAt_of_minus (offset : Nat) {c : Char} (hc : c.isDigit = true) (rest : Text) :
    insideTagAt offset ('-' :: c :: rest) = number offset '-' (c :: rest) := by
  simp [insideTagAt, hc]

theorem insideTagAt_of_isOperator (offset : Nat) {c : Char} (hc : c ∈ ['+', '-', '*', '/', '^'])
    {after : Text} (hminus : c = '-' → after.head?.any Char.isDigit = false) :
    insideTagAt offset (c :: after) =
      token .operator (some (.char c)) offset 1 after := by
  have hdigit : ¬(c = '-' ∧ after.head?.any Char.isDigit = true) := by
    rintro ⟨rfl, hdigit⟩
    simp [hminus rfl] at hdigit
  simp only [List.mem_cons, List.not_mem_nil, or_false] at hc
  obtain rfl | rfl | rfl | rfl | rfl := hc
  all_goals simp_all [insideTagAt, isOperator]

theorem name_of_isWord (offset : Nat) {c : Char} {run after : Text}
    (h : IsWord after (c :: run)) :
    name offset c (run ++ after) =
      token .name (some (.text (c :: run))) offset (run.length + 1) after := by
  obtain ⟨htake, hdrop⟩ := Text.takeWhile_append_of_stop h.2.1 h.2.2
  simp only [name, htake, hdrop, List.length_cons]

theorem function_of_isWord (offset : Nat) {lexeme after : Text} (h : IsWord after lexeme) :
    function offset (lexeme ++ after) =
      token .function (some (.text lexeme)) offset (lexeme.length + 1) after := by
  cases lexeme with
  | nil => exact h.elim
  | cons c run =>
      have hrun : ∀ d ∈ c :: run, isNameRest d = true := by
        intro d hd
        obtain rfl | hd := List.mem_cons.mp hd
        · exact isNameRest_of_isNameStart h.1
        · exact h.2.1 d hd
      obtain ⟨htake, hdrop⟩ := Text.takeWhile_append_of_stop hrun h.2.2
      have hstart : ((c :: run) ++ after).head?.any isNameStart = true := by simpa using h.1
      simp only [function, hstart, if_true, htake, hdrop, Nat.add_comm]

theorem number_of_isNumeral (offset : Nat) {c : Char} {run after : Text}
    (hrun : ∀ d ∈ run, isNumberRest d = true) (hstop : after.head?.any isNumberRest = false)
    {n : Number} (hvalue : Number.parse? (c :: run) = some n) :
    number offset c (run ++ after) =
      token n.tokenKind (some n.tokenValue) offset (run.length + 1) after := by
  obtain ⟨htake, hdrop⟩ := Text.takeWhile_append_of_stop hrun hstop
  cases n <;> simp [number, htake, hdrop, hvalue, Number.tokenKind, Number.tokenValue]

theorem insideTagAt_of_isNumeral (offset : Nat) {lexeme after : Text}
    (h : IsNumeral after lexeme) {n : Number} (hvalue : Number.parse? lexeme = some n) :
    insideTagAt offset (lexeme ++ after) =
      token n.tokenKind (some n.tokenValue) offset lexeme.length after := by
  obtain ⟨sign, c, run, rfl | rfl, rfl, hdigit, hrun, hstop⟩ := h
  · exact (insideTagAt_of_isDigit offset hdigit (run ++ after)).trans
      (number_of_isNumeral offset hrun hstop hvalue)
  · have hrun' : ∀ d ∈ c :: run, isNumberRest d = true := by
      intro d hd
      obtain rfl | hd := List.mem_cons.mp hd
      · exact isNumberRest_of_isDigit hdigit
      · exact hrun d hd
    exact (insideTagAt_of_minus offset hdigit (run ++ after)).trans
      (number_of_isNumeral offset hrun' hstop hvalue)

theorem outsideTag_of_spelling (offset : Nat) {kind : TokenKind} {value : Option TokenValue}
    {lexeme after : Text} (h : Spelling kind value lexeme after)
    (hmode : Mode.outsideTag.Admits kind) :
    outsideTag offset (lexeme ++ after) = token kind value offset lexeme.length after := by
  cases h with
  | tagOpen => simp [outsideTag, opensTag]
  | endOfInput => rfl
  | text hrun hne hend =>
      have htext := hrun.content_eq_nil_iff.not.mpr hne
      simp [outsideTag, hrun.opensTag_eq_false hne, hrun.scanText_eq hend, htext]
  | _ => simp [Mode.Admits] at hmode

theorem insideTagAt_of_spelling (offset : Nat) {kind : TokenKind} {value : Option TokenValue}
    {lexeme after : Text} (h : Spelling kind value lexeme after)
    (hmode : Mode.insideTag.Admits kind) :
    insideTagAt offset (lexeme ++ after) = token kind value offset lexeme.length after := by
  cases h with
  | tagClose => simp [insideTagAt, close]
  | equals => simp [insideTagAt]
  | name hrun =>
      cases lexeme with
      | nil => exact hrun.elim
      | cons c run =>
          rw [List.cons_append, insideTagAt_of_isNameStart offset hrun.1]
          exact name_of_isWord offset hrun
  | function hrun =>
      simpa [insideTagAt] using function_of_isWord offset hrun
  | integer hrun hvalue => exact insideTagAt_of_isNumeral offset hrun hvalue
  | double hrun hvalue => exact insideTagAt_of_isNumeral offset hrun hvalue
  | operator hc hminus => exact insideTagAt_of_isOperator offset hc hminus
  | string _ hrun =>
      simp [insideTagAt, literal, hrun.scanLiteral_eq, Nat.add_comm]
  | _ => simp [Mode.Admits] at hmode

end Lexeme

end TagMarkup
