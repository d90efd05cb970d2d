import TagMarkup.Document.Parse
import TagMarkup.Document.Outline
import TagMarkup.Paint

namespace TagMarkup

namespace Playground

def line (t : Text) : Text :=
  t ++ ['\n']

def historyUnsaved (reason : Text) : Text :=
  line ("Unable to save history: " ++ reason)

section

variable (colored : Bool)

def welcome : Text :=
  "\n" ++ line (Style.blue.strong.paint colored "SmartScript Playground") ++
    line (Style.green.paint colored "Type document lines, then `.parse` (or `.`) to parse them") ++
    line (line (Style.green.paint colored "Type .help to find all commands"))

def farewell : Text :=
  "\n👋 " ++ line (line (Style.green.strong.paint colored "Bye!"))

/-- The mark of the program in a colour, and a message after it. -/
def notice (s : Style) (message : Text) : Text :=
  line (s.paint colored "[ss]" ++ ' ' :: message)

def heading (title : Text) : Text :=
  line (Style.cyan.strong.paint colored title)

def mismatch : Text :=
  line (Style.yellow.paint colored "[ss] canonical text does not parse back to the same tree")

def documentReport (d : Document) : Text :=
  heading colored "[ss] Tree:" ++ d.outline ++ heading colored "[ss] Canonical text:" ++
    line d.render ++ (if d.roundTrips then [] else mismatch colored)

def diagnosticReport (diagnostic : Text) : Text :=
  line (Style.red.paint colored diagnostic)

def emptyBuffer : Text :=
  notice colored .yellow "Buffer is empty"

/-- Lines with their numbers, in a column of four characters. -/
def numberLines (first : Nat) : List Text → Text
  | [] => []
  | t :: rest =>
      line ((Text.ofNat first).leftpad 4 ' ' ++ ':' :: ' ' :: t) ++ numberLines (first + 1) rest

def bufferListing (lines : List Text) : Text :=
  notice colored .cyan (Style.green.strong.paint colored "Current Buffer:") ++ numberLines 1 lines

def undone (last : Text) : Text :=
  notice colored .green ("Undo line: " ++ last)

def cleared : Text :=
  notice colored .green "Buffer cleared"

def alreadyClear : Text :=
  notice colored .yellow "Buffer is already empty"

def cancelled : Text :=
  line (Style.yellow.paint colored "[ss] Input cancelled.")

def unknownCommand (word : Text) : Text :=
  "\n" ++ line (notice colored .red ("Unknown Command: " ++ word)) ++
    line (line ("Use " ++ Style.green.paint colored ".help" ++ " to find available commands"))

def helpLine (names description : Text) : Text :=
  line ("  " ++ names.rightpad 12 ' ' ++ " - " ++ description)

def helpText : Text :=
  notice colored .cyan "Available Commands:" ++
    helpLine ".parse, ." "Parse the buffer, print tree and canonical text" ++
    helpLine ".tokens, .t" "Print the tokens of the buffer" ++
    helpLine ".show, .sh" "Show current buffer" ++
    helpLine ".undo, .u" "Remove the last line" ++
    helpLine ".clear, .c" "Clear the buffer" ++
    helpLine ".help, .h" "Display this help information" ++
    helpLine ".quit, .q" "Exit shell" ++ "\n"

def readFailure (reason : Text) : Text :=
  "\n" ++ line (line (Style.red.strong.paint colored "[ss] Error: " ++ ' ' :: reason))

end

end Playground

end TagMarkup
