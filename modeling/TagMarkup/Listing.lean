import TagMarkup.Diagnostic
import TagMarkup.Quoted
import TagMarkup.Token.Stream

namespace TagMarkup

def TokenValue.inspect : TokenValue → Text
  | .text content => "String(" ++ Quoted.text content ++ ")"
  | .integer value => "Integer(" ++ Text.ofInt value.toInt ++ ")"
  | .double value => "Float(" ++ value.renderGeneral ++ ")"
  | .char symbol => "Char(" ++ Quoted.char symbol ++ ")"

/-- Kinds stand in a column of twelve characters. -/
def Token.listing (t : Token) : Text :=
  t.kind.label.rightpad 12 ' ' ++
    (match t.value with
      | some value => ' ' :: value.inspect
      | none => []) ++
    [' ', '@'] ++ Text.ofNat t.offset

def listTokens (source : Text) : List (Except LexError Token) → Except Text Text
  | [] => .ok []
  | .error e :: _ => .error (e.pretty source)
  | .ok t :: items => (listTokens source items).map fun lines => t.listing ++ '\n' :: lines

def tokenListing (source : Text) : Except Text Text :=
  listTokens source (Lexer.ofSource source).items

end TagMarkup
