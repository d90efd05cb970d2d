import TagMarkup.Binary64.Printing

namespace TagMarkup

inductive Number where
  | integer (value : Int64)
  | double (value : Binary64)
deriving DecidableEq

namespace Number

def render : Number → Text
  | .integer value => Text.ofInt value.toInt
  | .double value => value.render

/-- The signed value of a run of digits, if it fits into 64 bits. -/
def integer? (negative : Bool) (digits : Text) : Option Number :=
  let n := Nat.ofDigitChars 10 digits 0
  let i : Int := if negative then -n else n
  if Int64.minValue.toInt ≤ i ∧ i ≤ Int64.maxValue.toInt then some (.integer (Int64.ofInt i))
  else none

/-- The double nearest to the decimal with the given digits before and after the point, if it is
finite. -/
def double? (negative : Bool) (whole fraction : Text) : Option Number :=
  let v := Binary64.ofDecimal negative
    ⟨Nat.ofDigitChars 10 (whole ++ fraction) 0, -fraction.length⟩
  if v.isFinite then some (.double v) else none

/-- Reads a literal without its sign. -/
def unsigned? (negative : Bool) (t : Text) : Option Number :=
  let whole := t.takeWhile Char.isDigit
  if whole.isEmpty then none
  else
    match t.dropWhile Char.isDigit with
    | [] => integer? negative whole
    | '.' :: fraction => if fraction.all Char.isDigit then double? negative whole fraction else none
    | _ :: _ => none

/-- Reads a numeric literal that takes up the whole text. -/
def parse? : Text → Option Number
  | '-' :: t => unsigned? true t
  | t => unsigned? false t

end Number

end TagMarkup
