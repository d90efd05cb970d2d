import TagMarkup.Number

namespace TagMarkup

inductive TokenKind where
  | text | tagOpen | tagClose | integer | double | name | function | operator | string | endOfInput
deriving DecidableEq

def TokenKind.label : TokenKind → Text
  | .text => "text"
  | .tagOpen => "tag-open"
  | .tagClose => "tag-close"
  | .integer => "integer"
  | .double => "double"
  | .name => "name"
  | .function => "function"
  | .operator => "operator"
  | .string => "string"
  | .endOfInput => "end-of-input"

inductive TokenValue where
  | text (content : Text)
  | integer (value : Int64)
  | double (value : Binary64)
  | char (symbol : Char)
deriving DecidableEq

def TokenValue.render : TokenValue → Text
  | .text content => content
  | .integer value => Text.ofInt value.toInt
  | .double value => value.renderGeneral
  | .char symbol => [symbol]

structure Token where
  kind : TokenKind
  value : Option TokenValue
  /-- The offset of the first character. -/
  offset : Nat
deriving DecidableEq

namespace Token

def text? (t : Token) : Option Text :=
  match t.value with
  | some (.text content) => some content
  | _ => none

/-- How messages refer to a token: close to the way it stands in the source, but without escapes. -/
def describe (t : Token) : Text :=
  match t.kind, t.value with
  | .tagOpen, _ => ['{', '$']
  | .tagClose, _ => ['$', '}']
  | .endOfInput, _ => "end of input"
  | .string, some (.text content) => '"' :: content ++ ['"']
  | .function, some (.text content) => '@' :: content
  | _, some value => value.render
  | kind, none => kind.label

end Token

end TagMarkup
