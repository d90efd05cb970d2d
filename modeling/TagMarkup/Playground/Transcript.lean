import TagMarkup.Playground.Session

namespace TagMarkup

namespace Playground

/-- All actions of a run in order, the session at its end, and the inputs left unread. -/
structure Run where
  actions : List Action
  final : Session
  unread : List Input

def Reply.over (r : Reply) (unread : List Input) : Run :=
  ⟨r.actions ++ [.saveHistory], r.session, unread⟩

def Run.after (actions : List Action) (r : Run) : Run :=
  { r with actions := actions ++ r.actions }

/-- The run of a session over its inputs. When they run out, the end of the input follows. -/
def Session.run (colored : Bool) (s : Session) : List Input → Run
  | [] => ((s.react colored .endOfInput).over []).after [.prompt s.prompt]
  | input :: inputs =>
      let reply := s.react colored input
      if reply.leaving then (reply.over inputs).after [.prompt s.prompt]
      else (reply.session.run colored inputs).after (.prompt s.prompt :: reply.actions)

/-- The actions of a run from its first greeting on. -/
def perform (colored : Bool) (inputs : List Input) : Run :=
  (Session.start.run colored inputs).after [.print (welcome colored)]

namespace Action

def out : Action → Text
  | print t => t
  | _ => []

/-- What an action shows on the error stream. Saving the history shows something only if it fails,
for the given reason. -/
def err (unsaved : Option Text) : Action → Text
  | report t => t
  | saveHistory => (unsaved.map historyUnsaved).getD []
  | _ => []

def remembered? : Action → Option Text
  | remember content => some content
  | _ => none

end Action

def Run.history (r : Run) : List Text :=
  r.actions.filterMap Action.remembered?

/-- What is shown after a prompt and before the next one. There is no prompt before the first
exchange. -/
structure Exchange where
  prompt : Option Text
  out : Text
  err : Text

/-- The exchanges of a run, of which the first has the given prompt. -/
def exchanges (unsaved prompt : Option Text) : List Action → Exchange × List Exchange
  | [] => (⟨prompt, [], []⟩, [])
  | .prompt next :: actions =>
      let (first, others) := exchanges unsaved (some next) actions
      (⟨prompt, [], []⟩, first :: others)
  | action :: actions =>
      let (first, others) := exchanges unsaved prompt actions
      let shown : Exchange :=
        ⟨first.prompt, action.out ++ first.out, action.err unsaved ++ first.err⟩
      (shown, others)

end Playground

end TagMarkup
