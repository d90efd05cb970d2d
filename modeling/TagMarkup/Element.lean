import TagMarkup.Number
import TagMarkup.Unicode.Properties

namespace TagMarkup

def isNameStart (c : Char) : Bool :=
  Unicode.isAlphabetic c

def isNameRest (c : Char) : Bool :=
  Unicode.isAlphabetic c || Unicode.isNumeric c || c == '_'

/-- A letter, and then letters, digits and underscores, of any script. -/
def isValidName : Text → Bool
  | [] => false
  | c :: rest => isNameStart c && rest.all isNameRest

inductive Element where
  | number (value : Number)
  | string (content : Text)
  | variable (name : Text)
  | function (name : Text)
  | operator (symbol : Text)

inductive ElementKind where
  | integer | double | string | variable | function | operator
deriving DecidableEq

def ElementKind.name : ElementKind → Text
  | .integer => "integer"
  | .double => "double"
  | .string => "string"
  | .variable => "variable"
  | .function => "function"
  | .operator => "operator"

/-- A string literal: quotes and backslashes are escaped, and tabs and line ends are spelled out. -/
def escapeLiteralChar : Char → Text
  | '\\' => ['\\', '\\']
  | '"' => ['\\', '"']
  | '\t' => ['\\', 't']
  | '\r' => ['\\', 'r']
  | '\n' => ['\\', 'n']
  | c => [c]

def quoteLiteral (t : Text) : Text :=
  '"' :: t.flatMap escapeLiteralChar ++ ['"']

namespace Element

def kind : Element → ElementKind
  | .number (.integer _) => .integer
  | .number (.double _) => .double
  | .string _ => .string
  | .variable _ => .variable
  | .function _ => .function
  | .operator _ => .operator

def isNumeric : Element → Bool
  | .number _ => true
  | _ => false

def number? : Element → Option Number
  | .number value => some value
  | _ => none

/-- The bare value: no quotes, no escapes and no function mark. -/
def raw : Element → Text
  | .number value => value.render
  | .string content => content
  | .variable name => name
  | .function name => name
  | .operator symbol => symbol

/-- Canonical text. -/
def render : Element → Text
  | .number value => value.render
  | .string content => quoteLiteral content
  | .variable name => name
  | .function name => '@' :: name
  | .operator symbol => symbol

/-- Elements are the same when they have one kind and one canonical text. This tells the two zeros
apart and takes all values that are not numbers for one. -/
def same (a b : Element) : Bool :=
  a.kind == b.kind && a.render == b.render

instance : BEq Element := ⟨same⟩

end Element

end TagMarkup
