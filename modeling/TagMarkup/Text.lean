namespace TagMarkup

/-- A source, a name, a message, or anything else that is printed. -/
abbrev Text := List Char

instance : Coe String Text := ⟨String.toList⟩

namespace Text

/-- Decimal digits of a natural number, without leading zeros. -/
def ofNat (n : Nat) : Text :=
  Nat.toDigits 10 n

/-- Decimal digits of an integer, after a minus sign if it is negative. -/
def ofInt (i : Int) : Text :=
  if i < 0 then '-' :: ofNat i.natAbs else ofNat i.natAbs

/-- The text without its longest ending of characters that satisfy `p`. -/
def dropEndWhile (p : Char → Bool) (t : Text) : Text :=
  (t.reverse.dropWhile p).reverse

def byteWidth : Text → Nat
  | [] => 0
  | c :: t => c.utf8Size + byteWidth t

/-- The text that bytes encode, or the reason why there is none. -/
def decode (bytes : ByteArray) : Except Text Text :=
  match String.fromUTF8? bytes with
  | some s => .ok s.toList
  | none => .error "stream did not contain valid UTF-8"

/-- The texts in order, with a line feed between neighbours. -/
def joinLines (lines : List Text) : Text :=
  ['\n'].intercalate lines

end Text

end TagMarkup
