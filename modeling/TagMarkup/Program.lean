import TagMarkup.CommandLine
import TagMarkup.FileTree
import TagMarkup.Playground.Piped
import TagMarkup.Playground.Transcript

namespace TagMarkup

open CommandLine

namespace Program

/-- What the program can read: its standard input, and files by their paths. A file that cannot be
read has the reason instead of a content. -/
structure World where
  stdin : ByteArray
  file : Text → Except Text ByteArray

def World.ofTree (root : FileTree) (directory : Text) (stdin : ByteArray) : World :=
  ⟨stdin, root.read directory⟩

structure Outcome where
  exitCode : Nat
  out : Text
  err : Text

/-- The source that a command works on. A single dash stands for the standard input. -/
def World.source (w : World) (file : Text) : Except Text Text :=
  if file = ['-'] then Text.decode w.stdin
  else
    ((w.file file).bind Text.decode).mapError fun reason =>
      "cannot read `" ++ file ++ "`: " ++ reason

section

variable (colored : Bool)

def succeed (out : Text) : Outcome :=
  ⟨0, out, []⟩

def failure (message : Text) : Text :=
  Style.red.strong.paint colored "[ss] Failed:" ++ ' ' :: message ++ ['\n']

/-- Failures print nothing but their message. -/
def fail (message : Text) : Outcome :=
  ⟨1, [], failure colored message⟩

def lex (source : Text) : Outcome :=
  match tokenListing source with
  | .ok listing => succeed listing
  | .error diagnostic => fail colored diagnostic

def mismatch : Text :=
  Style.yellow.paint colored "[ss]" ++
    ' ' :: Style.yellow.paint colored "canonical text does not parse back to the same tree" ++
    ['\n']

def parse (options : ParseOptions) (tree : Bool) (source : Text) : Outcome :=
  match Document.parse options source with
  | .ok d =>
      ⟨0, if tree then d.outline else d.render, if d.roundTrips then [] else mismatch colored⟩
  | .error e => fail colored (e.pretty source)

/-- A session on the standard input. Without a terminal it shows no prompts. -/
def playground (inputs : List Playground.Input) : Outcome :=
  let actions := (Playground.perform colored inputs).actions
  ⟨0, actions.flatMap Playground.Action.out, actions.flatMap (Playground.Action.err none)⟩

def withSource (w : World) (file : Text) (work : Text → Outcome) : Outcome :=
  match w.source file with
  | .ok source => work source
  | .error message => fail colored message

def execute (w : World) : Command → Outcome
  | .lex file => withSource colored w file (lex colored)
  | .parse file tree allowUnclosed =>
      withSource colored w file (parse colored { allowUnclosed } tree)
  | .playground => playground colored (Playground.pipedInputs w.stdin)

def usage : Text :=
  "Usage: ss [--verbose] lex <FILE>\n" ++
  "       ss [--verbose] parse [--tree] [--allow-unclosed] <FILE>\n" ++
  "       ss [--verbose] playground\n"

def answer (w : World) : Request → Outcome
  | .run command => execute colored w command
  | .version => succeed "ss 0.1.0\n"
  | .help => succeed usage
  | .misuse => ⟨2, [], usage⟩

end

end Program

end TagMarkup
