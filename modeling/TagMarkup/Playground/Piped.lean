import TagMarkup.Playground.Session
import TagMarkup.Unicode.Cluster

namespace TagMarkup

namespace Playground

/-- Lines of bytes, each with its line feed if it has one. -/
def cutLines : List UInt8 → List (List UInt8)
  | [] => []
  | b :: bytes =>
      if b = 10 then [b] :: cutLines bytes
      else
        match cutLines bytes with
        | [] => [[b]]
        | first :: others => (b :: first) :: others

/-- A line without its line feed and without a carriage return before that. -/
def chomp (t : Text) : Text :=
  match t.reverse with
  | '\n' :: '\r' :: rest => rest.reverse
  | '\n' :: rest => rest.reverse
  | _ => t

/-- A line while it is typed: its characters and the widths of its clusters, the latest first. -/
structure Typed where
  text : Text
  widths : List Nat

namespace Typed

def empty : Typed :=
  ⟨[], []⟩

/-- Without the first characters that make up a number of bytes. -/
def dropBytes : Nat → Text → Text
  | _, [] => []
  | width, c :: t => if width = 0 then c :: t else dropBytes (width - c.utf8Size) t

/-- Types a cluster. A width is one byte, so that of a very long cluster is known only up to a
multiple of 256, and a backspace takes back no more of it than that. -/
def type (s : Typed) (cluster : Text) : Typed :=
  ⟨cluster.reverse ++ s.text, Text.byteWidth cluster % 256 :: s.widths⟩

def takeBack (s : Typed) : Typed :=
  match s.widths with
  | [] => s
  | width :: widths => ⟨dropBytes width s.text, widths⟩

def key (s : Typed) (cluster : Text) : Typed :=
  if cluster = ['\x08'] then s.takeBack else s.type cluster

end Typed

def applyBackspaces (t : Text) : Text :=
  ((Unicode.clusters t).foldl Typed.key .empty).text.reverse

def Input.ofBytes (bytes : List UInt8) : Input :=
  match Text.decode ⟨bytes.toArray⟩ with
  | .ok t => .line (applyBackspaces (chomp t))
  | .error message => .failure message

def pipedInputs (stdin : ByteArray) : List Input :=
  (cutLines stdin.toList).map Input.ofBytes

end Playground

end TagMarkup
