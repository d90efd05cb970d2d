import Mathlib
import TagMarkup.Proofs.Conversation
import TagMarkup.Proofs.Outcomes

namespace TagMarkup

open Program

/-- What is shown in place of the answer of a command: one text if the command succeeds, and
otherwise the message after its mark of failure. -/
inductive Program.Outcome.ShownAs (o : Outcome) (success : Text) : Text → Prop
  | success (hexit : o.exitCode = 0) (herr : o.err = []) : o.ShownAs success success
  | failure {message : Text} (hexit : o.exitCode = 1) (hout : o.out = [])
      (herr : o.err = "[ss] Failed: " ++ message ++ ['\n']) :
      o.ShownAs success (message ++ ['\n'])

theorem Program.shownAs_succeed (out success : Text) : (succeed out).ShownAs success success :=
  .success rfl rfl

theorem Program.shownAs_fail (message success : Text) :
    (fail false message).ShownAs success (message ++ ['\n']) :=
  .failure rfl rfl (by simp [fail, failure, Style.paint])

namespace Playground

/-- What is shown of a document, from its outline and its canonical text. -/
def documentText (outline canonical : Text) : Text :=
  "[ss] Tree:\n" ++ outline ++ "[ss] Canonical text:\n" ++ canonical ++ ['\n']

theorem documentReport_of_parse {options : ParseOptions} {source : Text} {d : Document}
    (h : Document.parse options source = .ok d) :
    documentReport false d = documentText d.outline d.render := by
  have htree : heading false "[ss] Tree:" = "[ss] Tree:\n" := by decide
  have htext : heading false "[ss] Canonical text:" = "[ss] Canonical text:\n" := by decide
  have hmatch : (if d.roundTrips then [] else mismatch false) = [] :=
    if_pos (d.roundTrips_of_parse h)
  unfold documentReport documentText line
  rw [hmatch, List.append_nil]
  simp only [htree, htext, List.append_assoc]

namespace Session

theorem react_of_commandWord (s : Session) (colored : Bool) (command : Command) {content : Text}
    (known : command ≠ .unknown (commandWord content))
    (hword : commandWord content ∈ command.words) :
    s.react colored (.line content) = s.obey colored command := by
  rw [react, Command.ofLine?_of_isCommandLine (isCommandLine_of_mem_words hword),
    (Command.ofWord_eq_iff known).mpr hword]

variable {s : Session} {w : World}

theorem tokens_shownAs (hsource : Text.decode w.stdin = .ok s.source) :
    ∃ shown, (s.tokens false).actions = [.print shown] ∧
      (lexed w).ShownAs (lexed w).out shown := by
  rw [lexed_eq, withSource_of_ok hsource, lex, tokens]
  cases tokenListing s.source with
  | ok listing => exact ⟨listing, rfl, shownAs_succeed listing listing⟩
  | error diagnostic => exact ⟨_, rfl, shownAs_fail diagnostic _⟩

theorem parse_shownAs (hbuffer : s.buffer ≠ []) (hsource : Text.decode w.stdin = .ok s.source) :
    ∃ shown, (s.parse false).actions = [.print shown] ∧
      (parsed w false false).ShownAs
        (documentText (parsed w true false).out (parsed w false false).out) shown := by
  have hnonempty : ¬ s.buffer.isEmpty = true := by simpa using hbuffer
  rw [parse, if_neg hnonempty]
  cases hparse : Document.parse {} s.source with
  | ok d =>
      refine ⟨documentReport false d, rfl, ?_⟩
      rw [parsed_of_ok hsource hparse, parsed_of_ok hsource hparse, documentReport_of_parse hparse]
      exact shownAs_succeed _ _
  | error e =>
      refine ⟨_, rfl, ?_⟩
      rw [parsed_of_error hsource hparse]
      exact shownAs_fail _ _

/-- What a session shows of its lines, compared with the commands on a standard input. -/
structure AgreesWith (s : Session) (w : World) : Prop where
  tokens : ∀ content, commandWord content ∈ [(".tokens" : Text), (".t" : Text)] →
    ∃ shown, (s.react false (.line content)).actions = [.print shown] ∧
      (lexed w).ShownAs (lexed w).out shown
  parse : s.buffer ≠ [] → ∀ content, commandWord content ∈ [(".parse" : Text), ("." : Text)] →
    ∃ shown, (s.react false (.line content)).actions = [.print shown] ∧
      (parsed w false false).ShownAs
        (documentText (parsed w true false).out (parsed w false false).out) shown

end Session

/-- After any inputs, a session answers from its lines what the commands answer if these lines are
on the standard input. -/
theorem session_agrees (inputs : List Input) (file : Text → Except Text ByteArray) :
    (Session.start.after false inputs).AgreesWith
      ⟨(String.ofList (Text.joinLines (Session.start.after false inputs).buffer)).toUTF8, file⟩ := by
  generalize Session.start.after false inputs = s
  have hsource := Text.decode_toUTF8 (Text.joinLines s.buffer)
  constructor
  · intro content hword
    rw [s.react_of_commandWord false .tokens (by simp) hword]
    exact Session.tokens_shownAs hsource
  · intro hbuffer content hword
    rw [s.react_of_commandWord false .parse (by simp) hword]
    exact Session.parse_shownAs hbuffer hsource

theorem session_agrees_loop :
    (Session.start.after false [.line "{$FOR i 1 2$}", .line "x{$END$}"]).buffer ≠ [] ∧
    commandWord " . " ∈ [(".parse" : Text), ("." : Text)] ∧
    ((Session.start.after false [.line "{$FOR i 1 2$}", .line "x{$END$}"]).react false
      (.line " . ")).actions =
        [.print (documentText "document\n  for i from 1 to 2\n    text \"\\nx\"\n"
          "{$FOR i 1 2$}\nx{$END$}")] := by
  have hbuffer : (Session.start.after false
      [.line "{$FOR i 1 2$}", .line "x{$END$}"]).buffer ≠ [] := by
    decide
  have hword : commandWord " . " ∈ [(".parse" : Text), ("." : Text)] := by
    decide
  obtain ⟨shown, hactions, hshown⟩ :=
    (session_agrees [.line "{$FOR i 1 2$}", .line "x{$END$}"] fun _ => .ok .empty).parse hbuffer
      " . " hword
  have hparse : Document.parse {} (Text.joinLines (Session.start.after false
      [.line "{$FOR i 1 2$}", .line "x{$END$}"]).buffer) =
      .ok ⟨[.loop ⟨['i'], .integer 1, .integer 2, none⟩ [.text ['\n', 'x']]]⟩ := by
    cbv
  have houtline : Document.outline ⟨[.loop ⟨['i'], .integer 1, .integer 2, none⟩
      [.text ['\n', 'x']]]⟩ = "document\n  for i from 1 to 2\n    text \"\\nx\"\n" := by
    decide +kernel
  have hrender : Document.render ⟨[.loop ⟨['i'], .integer 1, .integer 2, none⟩
      [.text ['\n', 'x']]]⟩ = "{$FOR i 1 2$}\nx{$END$}" := by
    cbv
  have hsource := Text.decode_toUTF8 (Text.joinLines (Session.start.after false
    [.line "{$FOR i 1 2$}", .line "x{$END$}"]).buffer)
  rw [parsed_of_ok hsource hparse, parsed_of_ok hsource hparse, if_pos rfl,
    if_neg Bool.false_ne_true, houtline, hrender] at hshown
  cases hshown with
  | failure hexit => cases hexit
  | success => exact ⟨hbuffer, hword, hactions⟩

end Playground

end TagMarkup
