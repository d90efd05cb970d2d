import TagMarkup.Text

namespace TagMarkup

namespace CommandLine

inductive Command where
  | lex (file : Text)
  | parse (file : Text) (tree allowUnclosed : Bool)
  | playground
deriving DecidableEq

inductive Request where
  | run (command : Command)
  | version
  | help
  /-- The arguments do not fit the usage of the program. -/
  | misuse
deriving DecidableEq

inductive Flag where
  | verbose | help | version | tree | allowUnclosed
deriving DecidableEq

inductive Subcommand where
  | lex | parse | playground
deriving DecidableEq

def Flag.long : Flag → Text
  | .verbose => "verbose"
  | .help => "help"
  | .version => "version"
  | .tree => "tree"
  | .allowUnclosed => "allow-unclosed"

def Flag.short? : Flag → Option Char
  | .verbose => some 'v'
  | .help => some 'h'
  | .version => some 'V'
  | .tree => none
  | .allowUnclosed => none

def Subcommand.names : List (Text × Subcommand) :=
  [("lex", .lex), ("parse", .parse), ("playground", .playground)]

def Subcommand.ofName? (name : Text) : Option Subcommand :=
  names.lookup name

def topFlags : List Flag :=
  [.verbose, .help, .version]

def Subcommand.flags : Subcommand → List Flag
  | .lex => [.verbose, .help]
  | .parse => [.verbose, .help, .tree, .allowUnclosed]
  | .playground => [.verbose, .help]

def Subcommand.arity : Subcommand → Nat
  | .lex => 1
  | .parse => 1
  | .playground => 0

/-- Adds a flag to those seen. A flag is given once; help and version settle the request. -/
def addFlag (seen : List Flag) : Flag → Except Request (List Flag)
  | .help => .error .help
  | .version => .error .version
  | flag => if flag ∈ seen then .error .misuse else .ok (flag :: seen)

def addNamed (seen : List Flag) : Option Flag → Except Request (List Flag)
  | some flag => addFlag seen flag
  | none => .error .misuse

/-- Flags of one letter each, written together. -/
def addLetters (allowed seen : List Flag) : Text → Except Request (List Flag)
  | [] => .ok seen
  | c :: letters => do
      let seen ← addNamed seen (allowed.find? fun flag => flag.short? == some c)
      addLetters allowed seen letters

/-- The flags seen after an argument that holds flags. Any other argument is a value, a single dash
too. -/
def addArgument? (allowed seen : List Flag) : Text → Option (Except Request (List Flag))
  | '-' :: '-' :: name => some (addNamed seen (allowed.find? fun flag => flag.long == name))
  | '-' :: c :: letters => some (addLetters allowed seen (c :: letters))
  | _ => none

def doubleDash : Text := ['-', '-']

/-- The flags and the values after a subcommand. More values than it takes are a misuse. -/
def readArguments (sub : Subcommand) (seen : List Flag) (values : List Text) :
    List Text → Except Request (List Flag × List Text)
  | [] => .ok (seen, values)
  | argument :: arguments =>
      if argument = doubleDash then
        if sub.arity < (values ++ arguments).length then .error .misuse
        else .ok (seen, values ++ arguments)
      else
        match addArgument? sub.flags seen argument with
        | some result => do readArguments sub (← result) values arguments
        | none =>
            if values.length < sub.arity then
              readArguments sub seen (values ++ [argument]) arguments
            else .error .misuse

def Subcommand.request : Subcommand → List Flag → List Text → Request
  | .lex, _, [file] => .run (.lex file)
  | .parse, flags, [file] =>
      .run (.parse file (flags.contains .tree) (flags.contains .allowUnclosed))
  | .playground, _, [] => .run .playground
  | _, _, _ => .misuse

def requestOf : Except Request Request → Request
  | .ok request => request
  | .error request => request

def readSubcommand (sub : Subcommand) (arguments : List Text) : Request :=
  requestOf <|
    (readArguments sub [] [] arguments).map fun (flags, values) => sub.request flags values

def helpName : Text := "help"

/-- The request for help on a subcommand, or on the program. Everything after it is taken for a
name, and no subcommand has subcommands of its own. -/
def readHelp : List Text → Request
  | [] => .help
  | [name] => if name = helpName ∨ (Subcommand.ofName? name).isSome then .help else .misuse
  | _ => .misuse

def readTop (seen : List Flag) : List Text → Request
  | [] => .misuse
  | argument :: arguments =>
      if argument = doubleDash then .misuse
      else
        match addArgument? topFlags seen argument with
        | some (.ok seen) => readTop seen arguments
        | some (.error request) => request
        | none =>
            if argument = helpName then readHelp arguments
            else
              match Subcommand.ofName? argument with
              | some sub => readSubcommand sub arguments
              | none => .misuse

/-- What the arguments of the program ask for. The first one that settles or spoils the request
counts. -/
def Request.ofArguments (arguments : List Text) : Request :=
  readTop [] arguments

end CommandLine

end TagMarkup
