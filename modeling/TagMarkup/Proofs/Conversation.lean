import TagMarkup.Playground.Transcript

namespace TagMarkup

open scoped List

namespace Playground

def IsCommandLine (content : Text) : Prop :=
  (trim content).head? = some '.'

instance (content : Text) : Decidable (IsCommandLine content) :=
  inferInstanceAs (Decidable (_ = _))

def commandWord (content : Text) : Text :=
  firstWord (trim content)

namespace Command

theorem isSome_ofLine?_iff {content : Text} :
    (ofLine? content).isSome ↔ IsCommandLine content := by
  simp [ofLine?, IsCommandLine]

theorem ofLine?_of_not_isCommandLine {content : Text} (h : ¬ IsCommandLine content) :
    ofLine? content = none :=
  if_neg h

theorem ofLine?_of_isCommandLine {content : Text} (h : IsCommandLine content) :
    ofLine? content = some (ofWord (commandWord content)) :=
  if_pos h

def words (command : Command) : List Text :=
  (names.filter fun p => p.2 = command).map Prod.fst

theorem ofWord_eq_iff {word : Text} {command : Command} (known : command ≠ .unknown word) :
    ofWord word = command ↔ word ∈ command.words := by
  simp only [words, List.mem_map, List.mem_filter, decide_eq_true_eq]
  constructor
  · intro hword
    rw [ofWord] at hword
    cases h : names.lookup word with
    | none =>
        rw [h] at hword
        exact absurd hword.symm known
    | some found =>
        rw [h] at hword
        obtain ⟨before, later, hnames, _⟩ := List.lookup_eq_some_iff.mp h
        exact ⟨(word, found), ⟨by simp [hnames], hword⟩, rfl⟩
  · rintro ⟨p, ⟨hp, rfl⟩, rfl⟩
    have all : ∀ p ∈ names, ofWord p.1 = p.2 := by decide
    exact all p hp

end Command

theorem isCommandLine_of_mem_words {content : Text} {command : Command}
    (h : commandWord content ∈ command.words) : IsCommandLine content := by
  obtain ⟨p, hp, hword⟩ := List.mem_map.mp h
  have all : ∀ p ∈ Command.names, p.1.head? = some '.' := by decide
  have hhead : (commandWord content).head? = some '.' := hword ▸ all p (List.mem_filter.mp hp).1
  rw [commandWord, firstWord] at hhead
  cases ht : trim content with
  | nil => simp [ht] at hhead
  | cons c t =>
      rw [ht, List.takeWhile_cons] at hhead
      rw [IsCommandLine, ht]
      split at hhead
      · exact hhead
      · cases hhead

namespace Input

/-- The line that an input adds to the ones collected. -/
def collected? : Input → Option Text
  | line content => if IsCommandLine content then none else some content
  | _ => none

theorem not_isCommandLine_of_collected {inputs : List Input} {content : Text}
    (h : content ∈ inputs.filterMap collected?) : ¬ IsCommandLine content := by
  obtain ⟨input, _, hinput⟩ := List.mem_filterMap.mp h
  cases input with
  | line content' =>
      rw [collected?] at hinput
      split at hinput
      · cases hinput
      · rename_i hline
        cases hinput
        exact hline
  | interrupt | endOfInput | failure => cases hinput

/-- The inputs that end a session with the given lines. -/
inductive Ends (buffer : List Text) : Input → Prop
  | quit {content : Text} (hword : commandWord content ∈ [(".quit" : Text), (".q" : Text)]) :
      Ends buffer (line content)
  | interrupt (hbuffer : buffer = []) : Ends buffer interrupt
  | endOfInput : Ends buffer endOfInput
  | failure (reason : Text) : Ends buffer (failure reason)

/-- What an input makes of the lines collected before it. -/
inductive Edits (buffer : List Text) : Input → List Text → Prop
  | collect {content : Text} (hline : ¬ IsCommandLine content) :
      Edits buffer (line content) (buffer ++ [content])
  | undo {content : Text} (hword : commandWord content ∈ [(".undo" : Text), (".u" : Text)]) :
      Edits buffer (line content) buffer.dropLast
  | clear {content : Text} (hword : commandWord content ∈ [(".clear" : Text), (".c" : Text)]) :
      Edits buffer (line content) []
  | parsed {content : Text} {d : Document}
      (hword : commandWord content ∈ [(".parse" : Text), ("." : Text)])
      (hparse : Document.parse {} (Text.joinLines buffer) = .ok d) :
      Edits buffer (line content) []
  | rejected {content : Text} {e : ParseError}
      (hword : commandWord content ∈ [(".parse" : Text), ("." : Text)])
      (hparse : Document.parse {} (Text.joinLines buffer) = .error e) :
      Edits buffer (line content) buffer
  | other {content : Text} (hline : IsCommandLine content)
      (hword : commandWord content ∉
        [(".undo" : Text), (".u" : Text), (".clear" : Text), (".c" : Text), (".parse" : Text),
          ("." : Text)]) :
      Edits buffer (line content) buffer
  | interrupt : Edits buffer interrupt []
  | endOfInput : Edits buffer endOfInput buffer
  | failure (reason : Text) : Edits buffer (failure reason) buffer

theorem Edits.of_ofWord {buffer : List Text} {content : Text} (hline : IsCommandLine content)
    (h : Command.ofWord (commandWord content) ∉ [Command.undo, .clear, .parse]) :
    Edits buffer (line content) buffer := by
  have hword : commandWord content ∉
      Command.words .undo ++ (Command.words .clear ++ Command.words .parse) := by
    simpa [Command.ofWord_eq_iff] using h
  exact .other hline hword

theorem Edits.sublist {buffer edited : List Text} {input : Input}
    (h : input.Edits buffer edited) : edited <+ buffer ++ input.collected?.toList := by
  cases h with
  | collect hline => simp [collected?, hline]
  | undo => exact (List.dropLast_sublist buffer).trans (List.sublist_append_left _ _)
  | clear | parsed | interrupt => exact List.nil_sublist _
  | rejected | other | endOfInput | failure => exact List.sublist_append_left _ _

end Input

namespace Session

section

variable (colored : Bool)

theorem parse_eq (s : Session) :
    ∃ out, (∃ d, Document.parse {} s.source = .ok d ∧ s.parse colored = stay [] out) ∨
      ∃ e, Document.parse {} s.source = .error e ∧ s.parse colored = stay s.buffer out := by
  rw [parse]
  cases hparse : Document.parse {} s.source with
  | ok d =>
      split
      · rename_i hempty
        rw [List.isEmpty_iff.mp hempty]
        exact ⟨_, .inl ⟨d, rfl, rfl⟩⟩
      · exact ⟨_, .inl ⟨d, rfl, rfl⟩⟩
  | error e =>
      split
      all_goals exact ⟨_, .inr ⟨e, rfl, rfl⟩⟩

theorem tokens_eq (s : Session) : ∃ out, s.tokens colored = stay s.buffer out := by
  rw [tokens]
  split
  all_goals exact ⟨_, rfl⟩

theorem list_eq (s : Session) : ∃ out, s.list colored = stay s.buffer out := by
  rw [list]
  split
  all_goals exact ⟨_, rfl⟩

theorem undo_eq (s : Session) : ∃ out, s.undo colored = stay s.buffer.dropLast out := by
  rw [undo]
  split
  · exact ⟨_, rfl⟩
  · rename_i hlast
    rw [List.getLast?_eq_none_iff.mp hlast]
    exact ⟨_, rfl⟩

theorem clear_eq (s : Session) : ∃ out, s.clear colored = stay [] out := by
  rw [clear]
  split
  · rename_i hempty
    rw [List.isEmpty_iff.mp hempty]
    exact ⟨_, rfl⟩
  · exact ⟨_, rfl⟩

theorem interrupt_eq (s : Session) : ∃ out,
    s.interrupt colored = ⟨[.print out], ⟨[]⟩, decide (s.buffer = [])⟩ := by
  obtain ⟨buffer⟩ := s
  cases buffer with
  | nil => exact ⟨_, rfl⟩
  | cons first others => exact ⟨_, rfl⟩

/-- All that a session does with a command: it prints something, edits its lines, and ends if it is
told to. -/
theorem react_command (s : Session) {content : Text} (hline : IsCommandLine content) :
    ∃ out buffer, (Input.line content).Edits s.buffer buffer ∧
      s.react colored (.line content) = ⟨[.print out], ⟨buffer⟩,
        decide (commandWord content ∈ [(".quit" : Text), (".q" : Text)])⟩ := by
  have hreact : s.react colored (.line content) =
      s.obey colored (Command.ofWord (commandWord content)) := by
    rw [react, Command.ofLine?_of_isCommandLine hline]
  rw [hreact]
  have hquit : decide (commandWord content ∈ [(".quit" : Text), (".q" : Text)]) =
      decide (Command.ofWord (commandWord content) = .quit) := by
    rw [decide_eq_decide, Command.ofWord_eq_iff (by simp)]
    rfl
  rw [hquit]
  cases hcommand : Command.ofWord (commandWord content) with
  | parse =>
      have hword := (Command.ofWord_eq_iff (by simp)).mp hcommand
      obtain ⟨out, ⟨d, hparse, h⟩ | ⟨e, hparse, h⟩⟩ := s.parse_eq colored
      · exact ⟨out, [], .parsed hword hparse, h⟩
      · exact ⟨out, s.buffer, .rejected hword hparse, h⟩
  | undo =>
      obtain ⟨out, h⟩ := s.undo_eq colored
      exact ⟨out, _, .undo ((Command.ofWord_eq_iff (by simp)).mp hcommand), h⟩
  | clear =>
      obtain ⟨out, h⟩ := s.clear_eq colored
      exact ⟨out, _, .clear ((Command.ofWord_eq_iff (by simp)).mp hcommand), h⟩
  | tokens =>
      obtain ⟨out, h⟩ := s.tokens_eq colored
      exact ⟨out, _, .of_ofWord hline (by simp [hcommand]), h⟩
  | list =>
      obtain ⟨out, h⟩ := s.list_eq colored
      exact ⟨out, _, .of_ofWord hline (by simp [hcommand]), h⟩
  | _ => exact ⟨_, s.buffer, .of_ofWord hline (by simp [hcommand]), rfl⟩

theorem react_of_not_isCommandLine (s : Session) {content : Text}
    (hline : ¬ IsCommandLine content) : s.react colored (.line content) = s.collect content := by
  rw [react, Command.ofLine?_of_not_isCommandLine hline]

theorem leaving_react_iff (s : Session) (input : Input) :
    (s.react colored input).leaving = true ↔ input.Ends s.buffer := by
  constructor
  · intro hleaving
    cases input with
    | line content =>
        by_cases hline : IsCommandLine content
        · obtain ⟨out, buffer, _, hreact⟩ := s.react_command colored hline
          rw [hreact] at hleaving
          exact .quit (of_decide_eq_true hleaving)
        · rw [s.react_of_not_isCommandLine colored hline] at hleaving
          cases hleaving
    | interrupt =>
        obtain ⟨out, hinterrupt⟩ := s.interrupt_eq colored
        rw [react, hinterrupt] at hleaving
        exact .interrupt (of_decide_eq_true hleaving)
    | endOfInput => exact .endOfInput
    | failure reason => exact .failure reason
  · intro hends
    cases hends with
    | @quit content hword =>
        have hquit : commandWord content ∈ Command.words .quit := hword
        have hline : IsCommandLine content := isCommandLine_of_mem_words hquit
        obtain ⟨out, buffer, _, hreact⟩ := s.react_command colored hline
        rw [hreact]
        exact decide_eq_true hword
    | interrupt hbuffer =>
        obtain ⟨out, hinterrupt⟩ := s.interrupt_eq colored
        rw [react, hinterrupt]
        exact decide_eq_true hbuffer
    | endOfInput => rfl
    | failure reason => rfl

theorem edits_react (s : Session) (input : Input) :
    input.Edits s.buffer (s.react colored input).session.buffer := by
  cases input with
  | line content =>
      by_cases hline : IsCommandLine content
      · obtain ⟨out, buffer, hedits, hreact⟩ := s.react_command colored hline
        rw [hreact]
        exact hedits
      · rw [s.react_of_not_isCommandLine colored hline]
        exact .collect hline
  | interrupt =>
      obtain ⟨out, hinterrupt⟩ := s.interrupt_eq colored
      rw [react, hinterrupt]
      exact .interrupt
  | endOfInput => exact .endOfInput
  | failure reason => exact .failure reason

/-- In reply to an input something is shown or remembered. Prompts and the saving of the history are
left to the run. -/
theorem actions_react (s : Session) (input : Input) :
    ∃ action, (s.react colored input).actions = [action] ∧
      action.remembered? = input.collected? ∧ action ≠ .saveHistory ∧ ∀ t, action ≠ .prompt t := by
  cases input with
  | line content =>
      by_cases hline : IsCommandLine content
      · obtain ⟨out, buffer, _, hreact⟩ := s.react_command colored hline
        exact ⟨.print out, by rw [hreact], (if_pos hline).symm, by simp, by simp⟩
      · have hreact := s.react_of_not_isCommandLine colored hline
        exact ⟨.remember content, by rw [hreact]; rfl, (if_neg hline).symm, by simp, by simp⟩
  | interrupt =>
      obtain ⟨out, hinterrupt⟩ := s.interrupt_eq colored
      exact ⟨.print out, by rw [react, hinterrupt], rfl, by simp, by simp⟩
  | endOfInput => exact ⟨_, rfl, rfl, by simp, by simp⟩
  | failure reason => exact ⟨_, rfl, rfl, by simp, by simp⟩

def after (s : Session) (inputs : List Input) : Session :=
  inputs.foldl (fun s input => (s.react colored input).session) s

/-- Everything that a session does with some inputs, from the prompt for the first one on. -/
def log (s : Session) : List Input → List Action
  | [] => []
  | input :: inputs =>
      .prompt (if s.buffer = [] then (">>> " : Text) else "... ") ::
        (s.react colored input).actions ++ (s.react colored input).session.log inputs

theorem after_append (s : Session) (before later : List Input) :
    s.after colored (before ++ later) = (s.after colored before).after colored later :=
  List.foldl_append

theorem log_append (s : Session) (before later : List Input) :
    s.log colored (before ++ later) =
      s.log colored before ++ (s.after colored before).log colored later := by
  induction before generalizing s with
  | nil => rfl
  | cons input before ih => simp [log, after, ih]

theorem prompt_eq (s : Session) : s.prompt = if s.buffer = [] then (">>> " : Text) else "... " := by
  simp [prompt]

theorem saveHistory_not_mem_log (s : Session) (inputs : List Input) :
    .saveHistory ∉ s.log colored inputs := by
  induction inputs generalizing s with
  | nil => simp [log]
  | cons input inputs ih =>
      obtain ⟨action, hactions, _, hsave, _⟩ := s.actions_react colored input
      simp [log, hactions, ih, hsave.symm]

theorem remembered_log (s : Session) (inputs : List Input) :
    (s.log colored inputs).filterMap Action.remembered? = inputs.filterMap Input.collected? := by
  induction inputs generalizing s with
  | nil => rfl
  | cons input inputs ih =>
      obtain ⟨action, hactions, hremembered, _⟩ := s.actions_react colored input
      simp only [log, hactions, List.cons_append, List.nil_append, List.filterMap_cons, hremembered,
        ih]
      rfl

theorem buffer_after_sublist (s : Session) (inputs : List Input) :
    (s.after colored inputs).buffer <+ s.buffer ++ inputs.filterMap Input.collected? := by
  induction inputs generalizing s with
  | nil => simp [after]
  | cons input inputs ih =>
      have hstep := (s.edits_react colored input).sublist
      calc (s.after colored (input :: inputs)).buffer
        _ = ((s.react colored input).session.after colored inputs).buffer := rfl
        _ <+ (s.react colored input).session.buffer ++ inputs.filterMap Input.collected? := ih _
        _ <+ (s.buffer ++ input.collected?.toList) ++ inputs.filterMap Input.collected? :=
          hstep.append_right _
        _ = s.buffer ++ (input :: inputs).filterMap Input.collected? := by
          cases h : input.collected? <;> simp [h]

/-- What a session reads of its inputs: everything up to the first input that ends it, which is the
end of the input if there is no other. -/
structure ReadsTo (s : Session) (inputs read : List Input) (last : Input) (unread : List Input) :
    Prop where
  inputs_eq : inputs = read ++ last :: unread ∨ inputs = read ∧ last = .endOfInput ∧ unread = []
  goes_on : ∀ before input, before ++ [input] <+: read →
    ¬ input.Ends (s.after colored before).buffer
  ends : last.Ends (s.after colored read).buffer

theorem run_eq (s : Session) (inputs : List Input) :
    ∃ read last, s.ReadsTo colored inputs read last (s.run colored inputs).unread ∧
      (s.run colored inputs).actions = s.log colored (read ++ [last]) ++ [.saveHistory] ∧
      (s.run colored inputs).final = s.after colored (read ++ [last]) := by
  induction inputs generalizing s with
  | nil =>
      refine ⟨[], .endOfInput, ⟨.inr ⟨rfl, rfl, rfl⟩, by simp, .endOfInput⟩, ?_, rfl⟩
      simp [run, Run.after, Reply.over, log, prompt_eq]
  | cons input inputs ih =>
      by_cases hleaving : (s.react colored input).leaving = true
      · have hends := (s.leaving_react_iff colored input).mp hleaving
        refine ⟨[], input, ⟨.inl ?_, by simp, hends⟩, ?_, ?_⟩
        all_goals simp [run, hleaving, Run.after, Reply.over, log, prompt_eq, after]
      · obtain ⟨read, last, ⟨hinputs, hgoes, hends⟩, hactions, hfinal⟩ :=
          ih (s.react colored input).session
        have hrun : s.run colored (input :: inputs) =
            ((s.react colored input).session.run colored inputs).after
              (.prompt s.prompt :: (s.react colored input).actions) := by
          rw [run]
          exact if_neg hleaving
        rw [hrun]
        refine ⟨input :: read, last, ⟨?_, ?_, hends⟩, ?_, hfinal⟩
        · rcases hinputs with hinputs | ⟨hinputs, hlast, hunread⟩
          · exact .inl (congrArg (input :: ·) hinputs)
          · exact .inr ⟨congrArg (input :: ·) hinputs, hlast, hunread⟩
        · rintro (_ | ⟨first, before⟩) next hbefore
          · obtain ⟨rfl, _⟩ := List.cons_prefix_cons.mp hbefore
            exact fun hnext => hleaving ((s.leaving_react_iff colored next).mpr hnext)
          · obtain ⟨rfl, htail⟩ := List.cons_prefix_cons.mp hbefore
            exact hgoes before next htail
        · simp [Run.after, hactions, log, prompt_eq]

end

end Session

/-- How a run goes along with the inputs that it reads. -/
structure Run.Accompanies (colored : Bool) (run : Run) (read : List Input) : Prop where
  actions : run.actions =
    .print (welcome colored) :: Session.start.log colored read ++ [.saveHistory]
  saves_once : .saveHistory ∉ Session.start.log colored read
  prompts : ∀ before input, before ++ [input] <+: read → ∀ t,
    .prompt t ∉ ((Session.start.after colored before).react colored input).actions
  commands : ∀ content, (Command.ofLine? content).isSome ↔ (trim content).head? = some '.'
  edits : ∀ before input, before ++ [input] <+: read →
    input.Edits (Session.start.after colored before).buffer
      (Session.start.after colored (before ++ [input])).buffer
  final : run.final = Session.start.after colored read
  history : run.history = read.filterMap Input.collected?
  history_before : ∀ before, before <+: read →
    Session.start.log colored before <+: Session.start.log colored read ∧
      (Session.start.log colored before).filterMap Action.remembered? =
        before.filterMap Input.collected?
  buffer_before : ∀ before, before <+: read →
    (Session.start.after colored before).buffer <+ before.filterMap Input.collected? ∧
      ∀ content ∈ (Session.start.after colored before).buffer, ¬ IsCommandLine content

/-- A run reads its inputs up to the first one that ends it and leaves the others unread. What it
shows, remembers and collects on the way depends on the inputs read alone. -/
theorem perform_accompanies (colored : Bool) (inputs : List Input) :
    ∃ read last,
      Session.start.ReadsTo colored inputs read last (perform colored inputs).unread ∧
        (perform colored inputs).Accompanies colored (read ++ [last]) := by
  obtain ⟨read, last, hreads, hactions, hfinal⟩ := Session.start.run_eq colored inputs
  have hperform : (perform colored inputs).actions = .print (welcome colored) ::
      Session.start.log colored (read ++ [last]) ++ [.saveHistory] := by
    simp [perform, Run.after, hactions]
  refine ⟨read, last, hreads, ?_⟩
  constructor
  case actions => exact hperform
  case saves_once => exact Session.start.saveHistory_not_mem_log colored _
  case prompts =>
    intro before input _ t hmem
    obtain ⟨action, hone, _, _, hprompt⟩ :=
      (Session.start.after colored before).actions_react colored input
    rw [hone, List.mem_singleton] at hmem
    exact hprompt t hmem.symm
  case commands => exact fun content => Command.isSome_ofLine?_iff
  case edits =>
    intro before input _
    rw [Session.after_append]
    exact (Session.start.after colored before).edits_react colored input
  case final => exact hfinal
  case history =>
    have hsaved : [Action.saveHistory].filterMap Action.remembered? = [] := rfl
    rw [Run.history, hperform, List.cons_append, List.filterMap_cons_none rfl,
      List.filterMap_append, Session.remembered_log, hsaved, List.append_nil]
  case history_before =>
    rintro before ⟨later, hread⟩
    refine ⟨?_, Session.start.remembered_log colored before⟩
    rw [← hread, Session.log_append]
    exact List.prefix_append _ _
  case buffer_before =>
    intro before _
    have hsublist := Session.start.buffer_after_sublist colored before
    refine ⟨hsublist, ?_⟩
    intro content hcontent
    exact Input.not_isCommandLine_of_collected (hsublist.mem hcontent)

end Playground

end TagMarkup
