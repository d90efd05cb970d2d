import TagMarkup.Document.Assembly
import TagMarkup.Token.Stream

namespace TagMarkup

namespace Assembly

/-- Runs over a token stream up to its end, an error in it, or the first token that does not fit.
`offset` is that of the token before; a stream that stops short is asked for a token there. -/
def run (options : ParseOptions) (offset : Nat) (a : Assembly) :
    List (Except LexError Token) → List Event × Except ParseError Document
  | [] => ([], .error (.lex (.pastEndOfInput offset)))
  | .error e :: _ => ([], .error (.lex e))
  | .ok t :: items =>
      match a.step options t with
      | .done events result => (.token t.kind t.offset :: events, result)
      | .go events next =>
          let (later, result) := run options t.offset next items
          (.token t.kind t.offset :: events ++ later, result)

end Assembly

namespace Document

/-- The events of parsing a source, and its document or the first error. -/
def trace (options : ParseOptions) (source : Text) : List Event × Except ParseError Document :=
  Assembly.empty.run options 0 (Lexer.ofSource source).items

def parse (options : ParseOptions) (source : Text) : Except ParseError Document :=
  (trace options source).2

/-- Whether the canonical text of a document is the source of an equal document. -/
def roundTrips (d : Document) : Bool :=
  match parse {} d.render with
  | .ok reparsed => reparsed == d
  | .error _ => false

end Document

end TagMarkup
