import TagMarkup.Text

namespace TagMarkup

inductive Color where
  | red | green | yellow | blue | cyan
deriving DecidableEq

def Color.code : Color → Text
  | .red => ['3', '1']
  | .green => ['3', '2']
  | .yellow => ['3', '3']
  | .blue => ['3', '4']
  | .cyan => ['3', '6']

structure Style where
  color : Color
  bold : Bool := false

namespace Style

def red : Style := { color := .red }
def green : Style := { color := .green }
def yellow : Style := { color := .yellow }
def blue : Style := { color := .blue }
def cyan : Style := { color := .cyan }

def strong (s : Style) : Style :=
  { s with bold := true }

def start (s : Style) : Text :=
  ['\x1b', '['] ++ (if s.bold then ['1', ';'] else []) ++ s.color.code ++ ['m']

def reset : Text :=
  ['\x1b', '[', '0', 'm']

/-- A reset inside painted text would end the style early, so the style starts again after it. -/
def resume (s : Style) : Text → Text
  | '\x1b' :: '[' :: '0' :: 'm' :: rest => reset ++ s.start ++ s.resume rest
  | c :: rest => c :: s.resume rest
  | [] => []

def paint (s : Style) (colored : Bool) (t : Text) : Text :=
  if colored then s.start ++ s.resume t ++ reset else t

end Style

end TagMarkup
