import TagMarkup.Text
import TagMarkup.Unicode.Properties

namespace TagMarkup

namespace Playground

inductive Command where
  | parse | tokens | list | undo | clear | help | quit
  | unknown (word : Text)
deriving DecidableEq

namespace Command

/-- Every known command has a long and a short name. -/
def names : List (Text × Command) :=
  [(".parse", .parse), (".", .parse), (".tokens", .tokens), (".t", .tokens), (".show", .list),
    (".sh", .list), (".undo", .undo), (".u", .undo), (".clear", .clear), (".c", .clear),
    (".help", .help), (".h", .help), (".quit", .quit), (".q", .quit)]

def ofWord (word : Text) : Command :=
  (names.lookup word).getD (.unknown word)

end Command

def trim (line : Text) : Text :=
  Text.dropEndWhile Unicode.isWhiteSpace (line.dropWhile Unicode.isWhiteSpace)

def firstWord (line : Text) : Text :=
  line.takeWhile fun c => !Unicode.isWhiteSpace c

/-- The command on a line, if the line is one: its first visible character is a point. -/
def Command.ofLine? (line : Text) : Option Command :=
  let trimmed := trim line
  if trimmed.head? = some '.' then some (ofWord (firstWord trimmed)) else none

end Playground

end TagMarkup
