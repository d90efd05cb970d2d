import TagMarkup.Document
import TagMarkup.Token
import TagMarkup.Unicode.Uppercase

namespace TagMarkup

/-- The kinds of tags, which their first token tells. -/
inductive TagName where
  | echo | loop | endLoop
deriving DecidableEq

/-- Tag names are compared in upper case. -/
def TagName.ofText? (t : Text) : Option TagName :=
  let upper := t.flatMap Unicode.uppercase
  if upper = ['F', 'O', 'R'] then some .loop
  else if upper = ['E', 'N', 'D'] then some .endLoop
  else if upper = ['='] then some .echo
  else none

namespace Token

/-- The text of a name token: a name, or the equals sign, which only names a tag. -/
def name? (t : Token) : Option Text :=
  match t.kind, t.value with
  | .name, some (.text name) => some name
  | _, _ => none

def variableName? (t : Token) : Option Text :=
  t.name?.filter isValidName

def tagName? (t : Token) : Option TagName :=
  t.name?.bind TagName.ofText?

def element? (t : Token) : Option Element :=
  match t.kind, t.value with
  | .integer, some (.integer value) => some (.number (.integer value))
  | .double, some (.double value) => some (.number (.double value))
  | .string, some (.text content) => some (.string content)
  | .function, some (.text name) => some (.function name)
  | .operator, some (.char symbol) => some (.operator [symbol])
  | .name, _ => t.variableName?.map .variable
  | _, _ => none

/-- The number that a token stands for in the header of a loop: a numeric literal, or a string with
one as its content. -/
def bound? (t : Token) : Option Number :=
  match t.kind, t.value with
  | .integer, some (.integer value) => some (.integer value)
  | .double, some (.double value) => some (.double value)
  | .string, some (.text content) => Number.parse? content
  | _, _ => none

end Token

end TagMarkup
