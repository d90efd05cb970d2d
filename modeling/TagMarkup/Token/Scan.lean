import TagMarkup.Element

namespace TagMarkup

inductive ScanFault where
  | invalidEscape (sequence : Char)
  | unterminatedEscape
  | unclosed
deriving DecidableEq

/-- The decoded text of a run, the number of characters it took, and what follows it. With a fault,
the run ends right before the faulty character. -/
structure Scan where
  text : Text
  width : Nat
  rest : Text
  fault : Option ScanFault
deriving DecidableEq

namespace Scan

/-- Puts a decoded character in front, which took `width` characters. -/
def prepend (c : Char) (width : Nat) (s : Scan) : Scan :=
  { s with text := c :: s.text, width := s.width + width }

def stop (rest : Text) (fault : Option ScanFault) : Scan :=
  ⟨[], 0, rest, fault⟩

end Scan

/-- Outside tags a backslash escapes itself and the opening brace. -/
def isTextEscape (c : Char) : Bool :=
  c == '\\' || c == '{'

def opensTag : Text → Bool
  | '{' :: '$' :: _ => true
  | _ => false

def scanText : Text → Scan
  | [] => .stop [] none
  | c :: rest =>
    if c = '\\' then
      match rest with
      | [] => .stop [c] (some .unterminatedEscape)
      | e :: tail =>
        if isTextEscape e then (scanText tail).prepend e 2
        else .stop (c :: e :: tail) (some (.invalidEscape e))
    else if opensTag (c :: rest) then .stop (c :: rest) none
    else (scanText rest).prepend c 1

def literalEscape? : Char → Option Char
  | '\\' => some '\\'
  | '"' => some '"'
  | 'n' => some '\n'
  | 'r' => some '\r'
  | 't' => some '\t'
  | _ => none

/-- The content of a string literal after its opening quote, with the closing quote. -/
def scanLiteral : Text → Scan
  | [] => .stop [] (some .unclosed)
  | c :: rest =>
    if c = '"' then ⟨[], 1, rest, none⟩
    else if c = '\\' then
      match rest with
      | [] => .stop [c] (some .unterminatedEscape)
      | e :: tail =>
        match literalEscape? e with
        | some d => (scanLiteral tail).prepend d 2
        | none => .stop (c :: e :: tail) (some (.invalidEscape e))
    else (scanLiteral rest).prepend c 1

def isOperator (c : Char) : Bool :=
  c == '+' || c == '-' || c == '*' || c == '/' || c == '^'

/-- Characters that extend a numeric literal. Whether the whole run is a literal is decided when it
has ended. -/
def isNumberRest (c : Char) : Bool :=
  c.isDigit || c == '.'

@[simp] theorem Scan.prepend_width (c : Char) (n : Nat) (s : Scan) :
    (s.prepend c n).width = s.width + n := rfl

@[simp] theorem Scan.prepend_rest (c : Char) (n : Nat) (s : Scan) :
    (s.prepend c n).rest = s.rest := rfl

@[simp] theorem Scan.prepend_text (c : Char) (n : Nat) (s : Scan) :
    (s.prepend c n).text = c :: s.text := rfl

@[simp] theorem Scan.prepend_fault (c : Char) (n : Nat) (s : Scan) :
    (s.prepend c n).fault = s.fault := rfl

@[simp] theorem scanText_nil : scanText [] = .stop [] none := rfl

theorem scanText_escape {e : Char} (h : isTextEscape e = true) (rest : Text) :
    scanText ('\\' :: e :: rest) = (scanText rest).prepend e 2 := by
  rw [scanText.eq_def]
  simp [h]

theorem scanText_tag (rest : Text) :
    scanText ('{' :: '$' :: rest) = .stop ('{' :: '$' :: rest) none := by
  rw [scanText.eq_def]
  simp [opensTag]

theorem scanText_plain {c : Char} {rest : Text} (hc : c ≠ '\\') (h : opensTag (c :: rest) = false) :
    scanText (c :: rest) = (scanText rest).prepend c 1 := by
  rw [scanText.eq_def]
  simp [hc, h]

theorem scanLiteral_quote (rest : Text) : scanLiteral ('"' :: rest) = ⟨[], 1, rest, none⟩ := by
  rw [scanLiteral.eq_def]
  simp

theorem scanLiteral_escape {e d : Char} (h : literalEscape? e = some d) (rest : Text) :
    scanLiteral ('\\' :: e :: rest) = (scanLiteral rest).prepend d 2 := by
  rw [scanLiteral.eq_def]
  simp [h]

theorem scanLiteral_plain {c : Char} (hquote : c ≠ '"') (hescape : c ≠ '\\') (rest : Text) :
    scanLiteral (c :: rest) = (scanLiteral rest).prepend c 1 := by
  rw [scanLiteral.eq_def]
  simp [hquote, hescape]

/-- A scan of literal text loses no character: what it took and what it left make up the source. -/
theorem scanText_width (source : Text) :
    (scanText source).width + (scanText source).rest.length = source.length := by
  fun_induction scanText source <;> simp_all [Scan.stop] <;> omega

theorem scanLiteral_width (source : Text) :
    (scanLiteral source).width + (scanLiteral source).rest.length = source.length := by
  fun_induction scanLiteral source <;> simp_all [Scan.stop] <;> omega

end TagMarkup
