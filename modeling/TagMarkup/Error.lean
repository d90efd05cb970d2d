import TagMarkup.Text

namespace TagMarkup

inductive LexError where
  | invalidEscape (sequence : Char) (offset : Nat)
  | unterminatedEscape (offset : Nat)
  | unterminatedTag (offset : Nat)
  | unterminatedString (offset : Nat)
  | disallowedCharacter (character : Char) (offset : Nat)
  | malformedTagClose (offset : Nat)
  | malformedNumber (text : Text) (offset : Nat)
  | invalidFunctionName (offset : Nat)
  | pastEndOfInput (offset : Nat)
deriving DecidableEq

namespace LexError

def offset : LexError → Nat
  | invalidEscape _ offset => offset
  | unterminatedEscape offset => offset
  | unterminatedTag offset => offset
  | unterminatedString offset => offset
  | disallowedCharacter _ offset => offset
  | malformedTagClose offset => offset
  | malformedNumber _ offset => offset
  | invalidFunctionName offset => offset
  | pastEndOfInput offset => offset

def message : LexError → Text
  | invalidEscape sequence offset =>
      "invalid escape sequence `\\" ++ [sequence] ++ "` at offset " ++ Text.ofNat offset ++ "."
  | unterminatedEscape _ => "unterminated escape at end of input."
  | unterminatedTag _ => "unterminated tag at end of input."
  | unterminatedString offset =>
      "unterminated string literal starting at offset " ++ Text.ofNat offset ++ "."
  | disallowedCharacter character offset =>
      "disallowed character `" ++ [character] ++ "` inside tag at offset " ++
        Text.ofNat offset ++ "."
  | malformedTagClose offset =>
      "`$` must be followed by `\x7d` to close a tag (offset " ++ Text.ofNat offset ++ ")."
  | malformedNumber text offset =>
      "malformed numeric literal `" ++ text ++ "` at offset " ++ Text.ofNat offset ++ "."
  | invalidFunctionName offset =>
      "function name must start with a letter right after `@` (offset " ++
        Text.ofNat offset ++ ")."
  | pastEndOfInput _ => "no more tokens: end of input was already reached."

end LexError

inductive ParseError where
  | lex (error : LexError)
  | emptyTag (offset : Nat)
  | unknownTag (name : Text) (offset : Nat)
  | unexpectedToken (found : Text) (offset : Nat)
  | missingLoopName (found : Text) (offset : Nat)
  | invalidBound (found : Text) (offset : Nat)
  | tooFewBounds (offset : Nat)
  | unclosedLoopTag (found : Text) (offset : Nat)
  | unclosedEndTag (found : Text) (offset : Nat)
  | unmatchedEnd (offset : Nat)
  | invalidElement (found : Text) (offset : Nat)
  | unterminatedLoop (name : Text) (offset : Nat)
deriving DecidableEq

namespace ParseError

def offset : ParseError → Nat
  | lex error => error.offset
  | emptyTag offset => offset
  | unknownTag _ offset => offset
  | unexpectedToken _ offset => offset
  | missingLoopName _ offset => offset
  | invalidBound _ offset => offset
  | tooFewBounds offset => offset
  | unclosedLoopTag _ offset => offset
  | unclosedEndTag _ offset => offset
  | unmatchedEnd offset => offset
  | invalidElement _ offset => offset
  | unterminatedLoop _ offset => offset

def message : ParseError → Text
  | lex error => error.message
  | emptyTag offset => "empty tag at offset " ++ Text.ofNat offset ++ "."
  | unknownTag name offset =>
      "unknown tag name `" ++ name ++ "` at offset " ++ Text.ofNat offset ++ "."
  | unexpectedToken found offset =>
      "unexpected token `" ++ found ++ "` at offset " ++ Text.ofNat offset ++ "."
  | missingLoopName found offset =>
      "FOR tag must start with a variable name, found `" ++ found ++ "` (offset " ++
        Text.ofNat offset ++ ")."
  | invalidBound found offset =>
      "invalid FOR expression `" ++ found ++ "`: only numeric literals are allowed (offset " ++
        Text.ofNat offset ++ ")."
  | tooFewBounds offset =>
      "too few expressions in FOR tag (offset " ++ Text.ofNat offset ++ ")."
  | unclosedLoopTag found offset =>
      "FOR tag is not properly closed with `$\x7d`, found `" ++ found ++ "` (offset " ++
        Text.ofNat offset ++ ")."
  | unclosedEndTag found offset =>
      "END tag is not properly closed with `$\x7d`, found `" ++ found ++ "` (offset " ++
        Text.ofNat offset ++ ")."
  | unmatchedEnd offset => "unmatched END tag at offset " ++ Text.ofNat offset ++ "."
  | invalidElement found offset =>
      "invalid element `" ++ found ++ "` in echo tag (offset " ++ Text.ofNat offset ++ ")."
  | unterminatedLoop name offset =>
      "unterminated FOR block over `" ++ name ++ "` opened at offset " ++
        Text.ofNat offset ++ "."

end ParseError

end TagMarkup
