import TagMarkup.Listing
import TagMarkup.Playground.Command
import TagMarkup.Playground.Message

namespace TagMarkup

namespace Playground

inductive Input where
  | line (content : Text)
  | interrupt
  | endOfInput
  | failure (reason : Text)

/-- The lines collected so far. Nothing else is carried from one input to the next. -/
structure Session where
  buffer : List Text

inductive Action where
  /-- Asks for the next input. -/
  | prompt (t : Text)
  | print (t : Text)
  /-- Prints on the error stream. -/
  | report (t : Text)
  /-- Adds a line to the history. -/
  | remember (content : Text)
  | saveHistory

/-- What a session does in reply to an input, its state after it, and whether it is over. -/
structure Reply where
  actions : List Action
  session : Session
  leaving : Bool

namespace Session

def start : Session :=
  ⟨[]⟩

/-- The prompt shows whether lines have been collected. -/
def prompt (s : Session) : Text :=
  if s.buffer.isEmpty then ">>> " else "... "

def source (s : Session) : Text :=
  Text.joinLines s.buffer

/-- Prints, and goes on with the given lines. -/
def stay (buffer : List Text) (out : Text) : Reply :=
  ⟨[.print out], ⟨buffer⟩, false⟩

def leave (s : Session) (last : Action) : Reply :=
  ⟨[last], s, true⟩

section

variable (colored : Bool)

/-- A document that parses is shown and leaves the buffer, any other stays in it. -/
def parse (s : Session) : Reply :=
  if s.buffer.isEmpty then stay s.buffer (emptyBuffer colored)
  else
    match Document.parse {} s.source with
    | .ok d => stay [] (documentReport colored d)
    | .error e => stay s.buffer (diagnosticReport colored (e.pretty s.source))

def tokens (s : Session) : Reply :=
  match tokenListing s.source with
  | .ok listing => stay s.buffer listing
  | .error diagnostic => stay s.buffer (diagnosticReport colored diagnostic)

def list (s : Session) : Reply :=
  if s.buffer.isEmpty then stay s.buffer (emptyBuffer colored)
  else stay s.buffer (bufferListing colored s.buffer)

def undo (s : Session) : Reply :=
  match s.buffer.getLast? with
  | some last => stay s.buffer.dropLast (undone colored last)
  | none => stay s.buffer (emptyBuffer colored)

def clear (s : Session) : Reply :=
  if s.buffer.isEmpty then stay s.buffer (alreadyClear colored)
  else stay [] (cleared colored)

def obey (s : Session) : Command → Reply
  | .parse => s.parse colored
  | .tokens => s.tokens colored
  | .list => s.list colored
  | .undo => s.undo colored
  | .clear => s.clear colored
  | .help => stay s.buffer (helpText colored)
  | .quit => s.leave (.print (farewell colored))
  | .unknown word => stay s.buffer (unknownCommand colored word)

/-- A line without a command is collected and remembered as it is. -/
def collect (s : Session) (content : Text) : Reply :=
  ⟨[.remember content], ⟨s.buffer ++ [content]⟩, false⟩

/-- An interrupt drops the lines collected, and leaves only when there are none. -/
def interrupt (s : Session) : Reply :=
  if s.buffer.isEmpty then s.leave (.print (farewell colored))
  else stay [] (cancelled colored)

def react (s : Session) : Input → Reply
  | .line content =>
      match Command.ofLine? content with
      | some command => s.obey colored command
      | none => s.collect content
  | .interrupt => s.interrupt colored
  | .endOfInput => s.leave (.print (farewell colored))
  | .failure reason => s.leave (.report (readFailure colored reason))

end

end Session

end Playground

end TagMarkup
