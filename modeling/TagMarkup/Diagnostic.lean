import TagMarkup.Error

namespace TagMarkup

/-- A line and a column, both counted from one. -/
structure Position where
  line : Nat
  column : Nat
deriving DecidableEq

namespace Position

def start : Position := ⟨1, 1⟩

def advance (p : Position) (c : Char) : Position :=
  if c = '\n' then ⟨p.line + 1, 1⟩ else ⟨p.line, p.column + 1⟩

/-- The position of a character offset. Offsets past the end have the position of the end. -/
def locate (source : Text) (offset : Nat) : Position :=
  (source.take offset).foldl advance start

def render (p : Position) : Text :=
  "line " ++ Text.ofNat p.line ++ ", column " ++ Text.ofNat p.column

end Position

/-- Line number `n` of a source, counted from zero, without its line feed. Past the last line it is
empty. -/
def lineAt : Nat → Text → Text
  | 0, source => source.takeWhile (· != '\n')
  | n + 1, source => lineAt n ((source.dropWhile (· != '\n')).drop 1)

/-- Carriage returns at the end of the line are not shown. -/
def diagnose (message source : Text) (p : Position) : Text :=
  let number := Text.ofNat p.line
  let gutter := List.replicate number.length ' '
  let context := Text.dropEndWhile (· == '\r') (lineAt (p.line - 1) source)
  Text.joinLines [
    "error: " ++ message,
    gutter ++ " --> " ++ p.render,
    gutter ++ " |",
    number ++ " | " ++ context,
    gutter ++ " | " ++ List.replicate (p.column - 1) ' ' ++ "^"]

def LexError.position (e : LexError) (source : Text) : Position :=
  Position.locate source e.offset

def LexError.pretty (e : LexError) (source : Text) : Text :=
  diagnose e.message source (e.position source)

def ParseError.position (e : ParseError) (source : Text) : Position :=
  Position.locate source e.offset

def ParseError.pretty (e : ParseError) (source : Text) : Text :=
  diagnose e.message source (e.position source)

end TagMarkup
