import TagMarkup.Text
import TagMarkup.Unicode.Printable

namespace TagMarkup

namespace Quoted

/-- The code point in hexadecimal, between braces. -/
def escapeCode (c : Char) : Text :=
  ['\\', 'u', '{'] ++ Nat.toDigits 16 c.toNat ++ ['}']

/-- One character of a form that is delimited by `quote`. -/
def escape (quote c : Char) : Text :=
  if c = '\x00' then ['\\', '0']
  else if c = '\t' then ['\\', 't']
  else if c = '\r' then ['\\', 'r']
  else if c = '\n' then ['\\', 'n']
  else if c = '\\' ∨ c = quote then ['\\', c]
  else if Unicode.isOverlaid c || !Unicode.isPrintable c then escapeCode c
  else [c]

def text (t : Text) : Text :=
  '"' :: t.flatMap (escape '"') ++ ['"']

def char (c : Char) : Text :=
  '\'' :: escape '\'' c ++ ['\'']

end Quoted

end TagMarkup
