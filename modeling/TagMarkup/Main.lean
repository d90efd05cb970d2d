import TagMarkup.Program

namespace TagMarkup

namespace Main

open CommandLine Program

def printText (t : Text) : IO Unit := do
  IO.print (String.ofList t)
  (← IO.getStdout).flush

def printError (t : Text) : IO Unit :=
  IO.eprint (String.ofList t)

def systemMessage (number : Nat) (otherwise : String) : Text :=
  match number with
  | 1 => "Operation not permitted"
  | 2 => "No such file or directory"
  | 5 => "Input/output error"
  | 6 => "No such device or address"
  | 13 => "Permission denied"
  | 20 => "Not a directory"
  | 21 => "Is a directory"
  | 36 => "File name too long"
  | 40 => "Too many levels of symbolic links"
  | _ => otherwise

/-- The message and the number of an error, which may be given with its sign changed. -/
def numbered (code : UInt32) (details : String) : Text :=
  let number := min code.toNat (-code).toNat
  systemMessage number details ++ " (os error " ++ Text.ofNat number ++ ")"

def reason : IO.Error → Text
  | .alreadyExists _ code details | .otherError code details | .resourceBusy code details
  | .resourceVanished code details | .unsupportedOperation code details
  | .hardwareFault code details | .unsatisfiedConstraints code details
  | .illegalOperation code details | .protocolError code details | .timeExpired code details
  | .interrupted _ code details | .noFileOrDirectory _ code details
  | .invalidArgument _ code details | .permissionDenied _ code details
  | .resourceExhausted _ code details | .inappropriateType _ code details
  | .noSuchThing _ code details => numbered code details
  | e => e.toString

def readFile (path : Text) : IO (Except Text ByteArray) := do
  try
    return .ok (← IO.FS.readBinFile (String.ofList path))
  catch e =>
    return .error (reason e)

/-- What a command reads. The standard input is read only by a command that works on it. -/
def worldOf (command : Command) : IO World := do
  match command with
  | .lex file | .parse file _ _ =>
      if file = ['-'] then
        return { stdin := ← (← IO.getStdin).readBinToEnd, file := fun _ => .ok .empty }
      else
        let content ← readFile file
        return { stdin := .empty, file := fun _ => content }
  | .playground =>
      return { stdin := ← (← IO.getStdin).readBinToEnd, file := fun _ => .ok .empty }

/-- Colours are for terminals, unless the environment forces or forbids them. -/
def wantsColor : IO Bool := do
  if (← IO.getEnv "NO_COLOR").isSome then return false
  if (← IO.getEnv "CLICOLOR_FORCE").any (· != "0") then return true
  if (← IO.getEnv "CLICOLOR") == some "0" then return false
  (← IO.getStdout).isTty

/-- Carries out an action. A plain terminal calls up no earlier lines, so no history is kept: lines to
remember and the wish to save them are passed over. -/
def act : Playground.Action → IO Unit
  | .prompt t => printText t
  | .print t => printText t
  | .report t => printError t
  | .remember _ => pure ()
  | .saveHistory => pure ()

partial def converse (colored : Bool) (session : Playground.Session) : IO Unit := do
  printText session.prompt
  let content ← (← IO.getStdin).getLine
  let input : Playground.Input :=
    if content.isEmpty then .endOfInput else .line (Playground.chomp content.toList)
  let reply := session.react colored input
  reply.actions.forM act
  unless reply.leaving do
    converse colored reply.session

def report (outcome : Outcome) : IO UInt32 := do
  printText outcome.out
  printError outcome.err
  return outcome.exitCode.toUInt32

def run (arguments : List String) : IO UInt32 := do
  let request := Request.ofArguments (arguments.map String.toList)
  let colored ← wantsColor
  match request with
  | .run .playground =>
      if ← (← IO.getStdin).isTty then
        printText (Playground.welcome colored)
        converse colored Playground.Session.start
        return 0
      else
        report (answer colored (← worldOf .playground) request)
  | .run command => report (answer colored (← worldOf command) request)
  | _ => report (answer colored { stdin := .empty, file := fun _ => .ok .empty } request)

end Main

end TagMarkup

def main (arguments : List String) : IO UInt32 :=
  TagMarkup.Main.run arguments
