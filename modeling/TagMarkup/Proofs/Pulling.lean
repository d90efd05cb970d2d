import TagMarkup.Proofs.Rejection
import TagMarkup.Proofs.Requests

namespace TagMarkup

def Event.token? : Event → Option (TokenKind × Nat)
  | token kind offset => some (kind, offset)
  | _ => none

namespace Lexer

variable {lx moved : Lexer} {t : Token} {items : List (Except LexError Token)}

theorem rest_lt_of_nextToken (h : lx.nextToken = (.ok t, moved)) (hkind : t.kind ≠ .endOfInput) :
    moved.rest.length < lx.rest.length := by
  have hconserves := Lexeme.read_conserves lx.mode lx.offset lx.rest
  unfold Lexeme.Conserves at hconserves
  unfold nextToken at h
  split at h
  · simp at h
  · dsimp only at h
    split at h
    · rename_i u hread
      obtain ⟨hu, rfl⟩ := Prod.mk.inj h
      obtain rfl := Except.ok.inj hu
      have hadvances := Lexeme.read_advances lx.mode lx.offset lx.rest u hread hkind
      dsimp only
      omega
    · simp at h

theorem nextToken_of_items (hlive : lx.IsLive) (h : lx.items = .ok t :: items) :
    lx.nextToken = (.ok t, lx.afterToken t) ∧
      (t.kind ≠ .endOfInput → (lx.afterToken t).items = items) := by
  rw [items_eq_itemsFrom hlive] at h
  obtain ⟨hread, hitems⟩ := itemsFrom_eq_cons h
  constructor
  · simp [nextToken, hlive.1, hlive.2, hread, afterToken]
  · intro hkind
    rw [items_eq_itemsFrom (afterToken_isLive hkind), hitems, if_neg hkind]
    rfl

theorem nextToken_of_items_error {e : LexError} (hlive : lx.IsLive)
    (h : lx.items = .error e :: items) : lx.nextToken.1 = .error e := by
  rw [items_eq_itemsFrom hlive] at h
  obtain ⟨hread, -⟩ := itemsFrom_eq_cons_error h
  simp [nextToken, hlive.2, hread]

end Lexer

theorem pairwise_offset_of_itemsFrom {m : Mode} {offset : Nat} {source : Text}
    {front : List Token} {rest : List (Except LexError Token)}
    (h : itemsFrom m offset source = front.map .ok ++ rest) :
    (front.Pairwise fun t u => t.offset < u.offset) ∧ ∀ t ∈ front, offset ≤ t.offset := by
  induction front generalizing m offset source with
  | nil => simp
  | cons t front ih =>
      obtain ⟨hread, hitems⟩ := itemsFrom_eq_cons h
      obtain ⟨hfrom, hwithin⟩ := Lexeme.read_offset hread
      by_cases hkind : t.kind = .endOfInput
      · obtain ⟨rfl, -⟩ : front = [] ∧ rest = [] := by simpa [hkind] using hitems
        simpa using hfrom
      · rw [if_neg hkind] at hitems
        obtain ⟨hincreasing, hlater⟩ := ih hitems.symm
        have hnext := hwithin hkind
        constructor
        · rw [List.pairwise_cons]
          refine ⟨fun u hu => ?_, hincreasing⟩
          have hoffset := hlater u hu
          omega
        · intro u hu
          rcases List.mem_cons.mp hu with rfl | hu
          · exact hfrom
          · have hoffset := hlater u hu
            omega

namespace Assembly

/-- What a parse has pulled from a lexer, what it has reported, and how it ended. -/
structure Pull where
  tokens : List Token
  events : List Event
  result : Except ParseError Document

/-- Asks a lexer for one token after the other, until the parse is settled. -/
def pull (options : ParseOptions) (a : Assembly) (lx : Lexer) : Pull :=
  match _hnext : lx.nextToken with
  | (.error e, _) => ⟨[], [], .error (.lex e)⟩
  | (.ok t, moved) =>
      match _hstep : a.step options t with
      | .done events result => ⟨[t], .token t.kind t.offset :: events, result⟩
      | .go events next =>
          let later := next.pull options moved
          ⟨t :: later.tokens, .token t.kind t.offset :: events ++ later.events, later.result⟩
termination_by lx.rest.length
decreasing_by
  exact Lexer.rest_lt_of_nextToken _hnext (step_eq_go_iff.mp _hstep).kind_ne_endOfInput

variable {options : ParseOptions} {a final : Assembly} {lx moved : Lexer} {t : Token}
  {events : List Event}

theorem pull_of_error {e : LexError} (h : lx.nextToken.1 = .error e) :
    a.pull options lx = ⟨[], [], .error (.lex e)⟩ := by
  rw [pull]
  split
  · rename_i hnext
    rw [hnext] at h
    cases h
    rfl
  · rename_i hnext
    rw [hnext] at h
    contradiction

theorem pull_of_done {result : Except ParseError Document} (h : lx.nextToken = (.ok t, moved))
    (hstep : a.step options t = .done events result) :
    a.pull options lx = ⟨[t], .token t.kind t.offset :: events, result⟩ := by
  rw [pull]
  split
  · rename_i hnext
    rw [h] at hnext
    cases hnext
  · rename_i hnext
    rw [h] at hnext
    cases hnext
    split
    · rename_i hdone
      rw [hstep] at hdone
      cases hdone
      rfl
    · rename_i hgo
      rw [hstep] at hgo
      cases hgo

theorem pull_of_go {next : Assembly} (h : lx.nextToken = (.ok t, moved))
    (hstep : a.step options t = .go events next) :
    a.pull options lx = ⟨t :: (next.pull options moved).tokens,
      .token t.kind t.offset :: events ++ (next.pull options moved).events,
      (next.pull options moved).result⟩ := by
  rw [pull]
  split
  · rename_i hnext
    rw [h] at hnext
    cases hnext
  · rename_i hnext
    rw [h] at hnext
    cases hnext
    split
    · rename_i hdone
      rw [hstep] at hdone
      cases hdone
    · rename_i hgo
      rw [hstep] at hgo
      cases hgo
      rfl

/-- How a parse goes over a token stream, with the tokens that it takes from it, its events and its
result. It ends well, it meets the error of the stream, or it rejects a token. -/
inductive Course (options : ParseOptions) (a : Assembly) :
    List (Except LexError Token) → List Token → List Event → Except ParseError Document → Prop
  | ends {front : List Token} {last : Token} {rest : List (Except LexError Token)}
      {final : Assembly} {events ending : List Event} {d : Document}
      (hsteps : Steps a front events final) (hends : Ends options final last ending d) :
      Course options a (front.map .ok ++ .ok last :: rest) (front ++ [last])
        (events ++ .token last.kind last.offset :: ending) (.ok d)
  | fault {front : List Token} {e : LexError} {rest : List (Except LexError Token)}
      {final : Assembly} {events : List Event} (hsteps : Steps a front events final) :
      Course options a (front.map .ok ++ .error e :: rest) front events (.error (.lex e))
  | rejects {front : List Token} {t : Token} {rest : List (Except LexError Token)}
      {final : Assembly} {events : List Event} {e : ParseError}
      (hsteps : Steps a front events final) (hrejects : Rejects options final t e) :
      Course options a (front.map .ok ++ .ok t :: rest) (front ++ [t])
        (events ++ [.token t.kind t.offset]) (.error e)

theorem exists_course {items : List (Except LexError Token)} (offset : Nat)
    (hitems : ∃ item ∈ items, ∀ t, item = .ok t → t.kind = .endOfInput) :
    ∃ tokens, Course options a items tokens (a.run options offset items).1
      (a.run options offset items).2 := by
  cases hrun : a.run options offset items with
  | mk events result =>
      cases result with
      | ok d =>
          obtain ⟨front, last, rest, final, earlier, ending, rfl, hsteps, hends, rfl⟩ :=
            run_eq_ok_iff.mp hrun
          exact ⟨_, .ends hsteps hends⟩
      | error e =>
          obtain ⟨front, item, rest, final, earlier, rfl, hsteps, hfails⟩ :=
            exists_fails_of_run hitems (congrArg Prod.snd hrun)
          rw [run_of_steps hsteps] at hrun
          cases hfails with
          | lex e =>
              rw [run, List.append_nil] at hrun
              cases hrun
              exact ⟨_, .fault hsteps⟩
          | rejects hrejects =>
              rw [run, step_of_rejects hrejects] at hrun
              cases hrun
              exact ⟨_, .rejects hsteps hrejects⟩

theorem pull_of_steps {front : List Token} (h : Steps a front events final)
    {items : List (Except LexError Token)} (hlive : lx.IsLive)
    (hitems : lx.items = front.map .ok ++ items) :
    ∃ moved : Lexer, moved.IsLive ∧ moved.items = items ∧
      a.pull options lx = ⟨front ++ (final.pull options moved).tokens,
        events ++ (final.pull options moved).events, (final.pull options moved).result⟩ := by
  induction h generalizing lx with
  | refl => exact ⟨lx, hlive, hitems, rfl⟩
  | @cons a next final t front events later hstep hrest ih =>
      obtain ⟨hnext, hafter⟩ := Lexer.nextToken_of_items hlive hitems
      have hkind := hstep.kind_ne_endOfInput
      obtain ⟨moved, hmoved, hleft, hpull⟩ := ih (Lexer.afterToken_isLive hkind) (hafter hkind)
      refine ⟨moved, hmoved, hleft, ?_⟩
      rw [pull_of_go hnext (step_eq_go_iff.mpr hstep), hpull, ← List.append_assoc]
      rfl

theorem Course.pull_eq {items : List (Except LexError Token)} {tokens : List Token}
    {result : Except ParseError Document} (h : Course options a items tokens events result)
    (hlive : lx.IsLive) (hitems : lx.items = items) :
    a.pull options lx = ⟨tokens, events, result⟩ := by
  cases h with
  | ends hsteps hends =>
      obtain ⟨moved, hmoved, hleft, hpull⟩ := pull_of_steps hsteps hlive hitems
      have hnext := (Lexer.nextToken_of_items hmoved hleft).1
      rw [hpull, pull_of_done hnext (step_eq_done_ok_iff.mpr hends)]
  | fault hsteps =>
      obtain ⟨moved, hmoved, hleft, hpull⟩ := pull_of_steps hsteps hlive hitems
      rw [hpull, pull_of_error (Lexer.nextToken_of_items_error hmoved hleft)]
      simp
  | rejects hsteps hrejects =>
      obtain ⟨moved, hmoved, hleft, hpull⟩ := pull_of_steps hsteps hlive hitems
      have hnext := (Lexer.nextToken_of_items hmoved hleft).1
      rw [hpull, pull_of_done hnext (step_of_rejects hrejects)]

theorem Takes.token?_eq_none {next : Assembly} (h : Takes a t events next) :
    events.filterMap Event.token? = [] := by
  cases h <;> rfl

theorem Steps.token?_eq {front : List Token} (h : Steps a front events final) :
    events.filterMap Event.token? = front.map fun t => (t.kind, t.offset) := by
  induction h with
  | refl => rfl
  | cons hstep _ ih =>
      rw [List.filterMap_append, List.filterMap_cons, hstep.token?_eq_none, ih]
      rfl

theorem Ends.token?_eq_none {d : Document} (h : Ends options a t events d) :
    events.filterMap Event.token? = [] := by
  rw [h.events, List.filterMap_append, List.filterMap_map]
  simp [Event.token?, List.filterMap_eq_nil_iff]

theorem Course.token?_eq {items : List (Except LexError Token)} {tokens : List Token}
    {result : Except ParseError Document} (h : Course options a items tokens events result) :
    events.filterMap Event.token? = tokens.map fun t => (t.kind, t.offset) := by
  cases h with
  | ends hsteps hends =>
      rw [List.filterMap_append, List.filterMap_cons, hsteps.token?_eq, hends.token?_eq_none,
        List.map_append]
      rfl
  | fault hsteps => exact hsteps.token?_eq
  | rejects hsteps hrejects =>
      rw [List.filterMap_append, hsteps.token?_eq, List.map_append]
      rfl

theorem Rejects.ne_lex {e : ParseError} (h : Rejects options a t e) (lexical : LexError) :
    e ≠ .lex lexical := by
  cases h <;> simp

section Stream

variable {m : Mode} {offset : Nat} {source : Text} {tokens : List Token}

theorem Course.prefix_items {items : List (Except LexError Token)}
    {result : Except ParseError Document} (h : Course options a items tokens events result) :
    tokens.map .ok <+: items := by
  cases h with
  | @ends front last rest => exact ⟨rest, by simp⟩
  | @fault front e rest => exact ⟨.error e :: rest, rfl⟩
  | @rejects front t rest => exact ⟨rest, by simp⟩

theorem Course.items_of_ok {d : Document}
    (h : Course options a (itemsFrom m offset source) tokens events (.ok d)) :
    itemsFrom m offset source = tokens.map .ok ∧
      ∃ last ∈ tokens.getLast?, last.kind = .endOfInput := by
  generalize hitems : itemsFrom m offset source = items at h
  cases h with
  | @ends front last rest final events ending d hsteps hends =>
      obtain rfl := eq_nil_of_itemsFrom hends.kind hitems
      exact ⟨by simp, last, by simp, hends.kind⟩

theorem Course.items_of_lex {e : LexError}
    (h : Course options a (itemsFrom m offset source) tokens events (.error (.lex e))) :
    itemsFrom m offset source = tokens.map .ok ++ [.error e] := by
  generalize hitems : itemsFrom m offset source = items at h
  cases h with
  | fault hsteps =>
      obtain rfl := eq_nil_of_itemsFrom_error hitems
      rfl
  | rejects hsteps hrejects => exact (hrejects.ne_lex e rfl).elim

theorem Course.exists_rejects {items : List (Except LexError Token)} {e : ParseError}
    (h : Course options a items tokens events (.error e)) (hgrammar : ∀ lexical, e ≠ .lex lexical) :
    ∃ before t final earlier, tokens = before ++ [t] ∧ Steps a before earlier final ∧
      Rejects options final t e := by
  cases h with
  | fault hsteps => exact (hgrammar _ rfl).elim
  | rejects hsteps hrejects => exact ⟨_, _, _, _, rfl, hsteps, hrejects⟩

end Stream

end Assembly

namespace Document

theorem exists_course (options : ParseOptions) (source : Text) :
    ∃ tokens, Assembly.Course options .empty (itemsFrom .outsideTag 0 source) tokens
      (trace options source).1 (parse options source) :=
  Assembly.exists_course 0 (exists_last_itemsFrom .outsideTag 0 source)

theorem tokenize_of_lex {options : ParseOptions} {source : Text} {e : LexError}
    (h : parse options source = .error (.lex e)) : tokenize source = .error e := by
  obtain ⟨tokens, hcourse⟩ := exists_course options source
  rw [h] at hcourse
  exact tokenize_eq_error_iff.mpr ⟨tokens, hcourse.items_of_lex⟩

/-- What a parse that pulls its tokens has in common with the token stream of its source. -/
structure FollowsStream (options : ParseOptions) (source : Text) (p : Assembly.Pull) : Prop where
  trace_eq : trace options source = (p.events, p.result)
  reported : p.events.filterMap Event.token? = p.tokens.map fun t => (t.kind, t.offset)
  stream : p.tokens.map .ok <+: (Lexer.ofSource source).items
  increasing : p.tokens.Pairwise fun t u => t.offset < u.offset
  of_ok {d : Document} (h : parse options source = .ok d) :
    tokenize source = .ok p.tokens ∧ ∃ last ∈ p.tokens.getLast?, last.kind = .endOfInput
  of_lexical {e : LexError} (h : parse options source = .error (.lex e)) :
    tokenize source = .error e ∧
      (Lexer.ofSource source).items = p.tokens.map .ok ++ [.error e]
  of_tokens {tokens : List Token} (h : tokenize source = .ok tokens) (e : LexError) :
    parse options source ≠ .error (.lex e)
  /-- A parse misses the lexical error only if it rejects a token before it. -/
  of_fault {e : LexError} (h : tokenize source = .error e) :
    parse options source = .error (.lex e) ∨
      ∃ found before t later, parse options source = .error found ∧
        (∀ lexical, found ≠ .lex lexical) ∧ p.tokens = before ++ [t] ∧
        (Lexer.ofSource source).items = (p.tokens ++ later).map .ok ++ [.error e] ∧
        ∃ a events, Assembly.Steps .empty before events a ∧
          a.step options t = .done [] (.error found)

theorem exists_later_of_prefix {tokens front : List Token} {e : LexError}
    (h : tokens.map Except.ok <+: front.map .ok ++ [.error e]) :
    ∃ later, front = tokens ++ later := by
  induction tokens generalizing front with
  | nil => exact ⟨front, rfl⟩
  | cons t tokens ih =>
      cases front with
      | nil => simp at h
      | cons u front =>
          obtain ⟨htoken, hrest⟩ := List.cons_prefix_cons.mp h
          obtain ⟨later, rfl⟩ := ih hrest
          exact ⟨later, by rw [Except.ok.inj htoken, List.cons_append]⟩

/-- A parse pulls each token of the stream once and in order, up to the one that settles it, and it
agrees with the stream on lexical errors. -/
theorem pull_followsStream (options : ParseOptions) (source : Text) :
    FollowsStream options source (Assembly.empty.pull options (Lexer.ofSource source)) := by
  obtain ⟨tokens, hcourse⟩ := exists_course options source
  have hpull : Assembly.empty.pull options (Lexer.ofSource source) = _ :=
    hcourse.pull_eq ⟨rfl, rfl⟩ rfl
  rw [hpull]
  have hstream := hcourse.prefix_items
  constructor
  case trace_eq => rfl
  case reported => exact hcourse.token?_eq
  case stream => exact hstream
  case increasing =>
    obtain ⟨rest, hitems⟩ := hstream
    exact (pairwise_offset_of_itemsFrom hitems.symm).1
  case of_ok =>
    intro d h
    rw [h] at hcourse
    obtain ⟨hitems, hlast⟩ := hcourse.items_of_ok
    exact ⟨collect_eq_ok_iff.mpr hitems, hlast⟩
  case of_lexical =>
    intro e h
    have hfault := tokenize_of_lex h
    rw [h] at hcourse
    exact ⟨hfault, hcourse.items_of_lex⟩
  case of_tokens =>
    intro all h e herror
    rw [tokenize_of_lex herror] at h
    contradiction
  case of_fault =>
    intro e h
    obtain ⟨front, hitems⟩ := tokenize_eq_error_iff.mp h
    rw [hitems] at hstream
    cases hparse : parse options source with
    | ok d =>
        rw [hparse] at hcourse
        obtain ⟨hall, -⟩ := hcourse.items_of_ok
        have htokens : tokenize source = .ok tokens := collect_eq_ok_iff.mpr hall
        rw [h] at htokens
        contradiction
    | error found =>
        rw [hparse] at hcourse
        by_cases hlexical : ∃ lexical, found = .lex lexical
        · obtain ⟨lexical, rfl⟩ := hlexical
          have hfault := tokenize_of_lex hparse
          rw [h] at hfault
          cases hfault
          exact .inl rfl
        · obtain ⟨before, t, a, events, rfl, hsteps, hrejects⟩ :=
            hcourse.exists_rejects (not_exists.mp hlexical)
          obtain ⟨later, rfl⟩ := exists_later_of_prefix hstream
          exact .inr ⟨found, before, t, later, rfl, not_exists.mp hlexical, rfl, hitems, a, events,
            hsteps, Assembly.step_of_rejects hrejects⟩

end Document

end TagMarkup
