import TagMarkup.Error
import TagMarkup.Token
import TagMarkup.Token.Scan

namespace TagMarkup

inductive Mode where
  | outsideTag | insideTag
deriving DecidableEq

/-- Tag marks switch the mode, other tokens keep it. -/
def Mode.after (m : Mode) : TokenKind → Mode
  | .tagOpen => .insideTag
  | .tagClose => .outsideTag
  | _ => m

/-- A token or an error, the number of characters passed over for it, and what follows them. -/
structure Lexeme where
  outcome : Except LexError Token
  width : Nat
  rest : Text

def ScanFault.error (offset : Nat) : ScanFault → LexError
  | .invalidEscape sequence => .invalidEscape sequence offset
  | .unterminatedEscape => .unterminatedEscape offset
  | .unclosed => .unterminatedString offset

namespace Lexeme

def token (kind : TokenKind) (value : Option TokenValue) (offset width : Nat) (rest : Text) :
    Lexeme :=
  ⟨.ok ⟨kind, value, offset⟩, width, rest⟩

def fault (error : LexError) (width : Nat) (rest : Text) : Lexeme :=
  ⟨.error error, width, rest⟩

/-- Passes over `width` more characters in front. -/
def after (width : Nat) (x : Lexeme) : Lexeme :=
  { x with width := width + x.width }

/-- The text up to the next tag, the mark that opens a tag, or the end of the source. -/
def outsideTag (offset : Nat) (source : Text) : Lexeme :=
  if opensTag source then token .tagOpen none offset 2 (source.drop 2)
  else
    let scan := scanText source
    match scan.fault with
    | some f => fault (f.error (offset + scan.width)) scan.width scan.rest
    | none =>
      if scan.text.isEmpty then token .endOfInput none offset 0 source
      else token .text (some (.text scan.text)) offset scan.width scan.rest

/-- A string literal, from its opening quote on. A literal that is never closed is reported at that
quote, a faulty escape where it stands. -/
def literal (offset : Nat) (content : Text) : Lexeme :=
  let scan := scanLiteral content
  match scan.fault with
  | some .unclosed => fault (.unterminatedString offset) (1 + scan.width) scan.rest
  | some f => fault (f.error (offset + 1 + scan.width)) (1 + scan.width) scan.rest
  | none => token .string (some (.text scan.text)) offset (1 + scan.width) scan.rest

/-- A numeric literal whose first character, a digit or a minus sign, is given. -/
def number (offset : Nat) (first : Char) (source : Text) : Lexeme :=
  let run := first :: source.takeWhile isNumberRest
  let rest := source.dropWhile isNumberRest
  match Number.parse? run with
  | some (.integer value) => token .integer (some (.integer value)) offset run.length rest
  | some (.double value) => token .double (some (.double value)) offset run.length rest
  | none => fault (.malformedNumber run offset) run.length rest

/-- A name whose first letter is given. -/
def name (offset : Nat) (first : Char) (source : Text) : Lexeme :=
  let run := first :: source.takeWhile isNameRest
  token .name (some (.text run)) offset run.length (source.dropWhile isNameRest)

/-- A function name, from the character after its mark on. -/
def function (offset : Nat) (source : Text) : Lexeme :=
  if source.head?.any isNameStart then
    let run := source.takeWhile isNameRest
    token .function (some (.text run)) offset (1 + run.length) (source.dropWhile isNameRest)
  else fault (.invalidFunctionName offset) 0 ('@' :: source)

/-- The mark that closes a tag, from the character after its dollar sign on. -/
def close (offset : Nat) : Text → Lexeme
  | [] => fault (.unterminatedTag offset) 0 ['$']
  | c :: rest =>
    if c = '}' then token .tagClose none offset 2 rest
    else fault (.malformedTagClose offset) 0 ('$' :: c :: rest)

/-- A token inside a tag, where no white space stands before it. The minus sign begins a number if a
digit follows it and is an operator otherwise. -/
def insideTagAt (offset : Nat) : Text → Lexeme
  | [] => fault (.unterminatedTag offset) 0 []
  | c :: rest =>
    if c = '$' then close offset rest
    else if c = '"' then literal offset rest
    else if c = '@' then function offset rest
    else if c = '=' then token .name (some (.text [c])) offset 1 rest
    else if c = '-' ∧ rest.head?.any Char.isDigit then number offset c rest
    else if isOperator c then token .operator (some (.char c)) offset 1 rest
    else if c.isDigit then number offset c rest
    else if isNameStart c then name offset c rest
    else fault (.disallowedCharacter c offset) 0 (c :: rest)

def insideTag (offset : Nat) (source : Text) : Lexeme :=
  let blank := source.takeWhile Unicode.isWhiteSpace
  (insideTagAt (offset + blank.length) (source.dropWhile Unicode.isWhiteSpace)).after blank.length

def read : Mode → Nat → Text → Lexeme
  | .outsideTag => outsideTag
  | .insideTag => insideTag

end Lexeme

/-- A position in a source, from which tokens are taken one at a time, also after an error. -/
structure Lexer where
  rest : Text
  offset : Nat
  mode : Mode
  /-- The token taken last, if any. -/
  last : Option Token
  /-- Whether the token stream has handed out an error. -/
  failed : Bool

namespace Lexer

def ofSource (source : Text) : Lexer :=
  ⟨source, 0, .outsideTag, none, false⟩

/-- Whether the end of the input has been taken. -/
def isFinished (lx : Lexer) : Bool :=
  lx.last.any fun t => t.kind == .endOfInput

/-- Takes the next token. The end of the input is a token of its own, which is taken once; after it
there is only an error. -/
def nextToken (lx : Lexer) : Except LexError Token × Lexer :=
  if lx.isFinished then (.error (.pastEndOfInput lx.offset), lx)
  else
    let x := Lexeme.read lx.mode lx.offset lx.rest
    let moved := { lx with offset := lx.offset + x.width, rest := x.rest }
    match x.outcome with
    | .ok t => (.ok t, { moved with mode := lx.mode.after t.kind, last := some t })
    | .error e => (.error e, moved)

/-- The token stream: every token up to the end of the input, or up to the first error. -/
def next? (lx : Lexer) : Option (Except LexError Token × Lexer) :=
  if lx.failed || lx.isFinished then none
  else
    match lx.nextToken with
    | (.ok t, moved) => some (.ok t, moved)
    | (.error e, moved) => some (.error e, { moved with failed := true })

end Lexer

end TagMarkup
