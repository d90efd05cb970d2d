import TagMarkup.Proofs.Stream

namespace TagMarkup

/-! A lexer under any use. Every request keeps one account of what the lexer has passed over and
handed out. -/

namespace Lexeme

/-- The fault is in the source, not in asking for more than there is. -/
def InSource (x : Lexeme) : Prop :=
  ∀ offset, x.outcome ≠ .error (.pastEndOfInput offset)

theorem inSource_token (kind : TokenKind) (value : Option TokenValue) (offset width : Nat)
    (rest : Text) : (token kind value offset width rest).InSource :=
  nofun

theorem inSource_scanFault (f : ScanFault) (offset width : Nat) (rest : Text) :
    (fault (f.error offset) width rest).InSource := by
  cases f <;> exact nofun

theorem outsideTag_inSource (offset : Nat) (source : Text) : (outsideTag offset source).InSource := by
  unfold outsideTag
  split
  · exact inSource_token _ _ _ _ _
  · dsimp only
    split
    · exact inSource_scanFault _ _ _ _
    · split <;> exact inSource_token _ _ _ _ _

theorem literal_inSource (offset : Nat) (content : Text) : (literal offset content).InSource := by
  unfold literal
  dsimp only
  split
  · exact nofun
  · exact inSource_scanFault _ _ _ _
  · exact inSource_token _ _ _ _ _

theorem number_inSource (offset : Nat) (c : Char) (source : Text) :
    (number offset c source).InSource := by
  unfold number
  dsimp only
  split <;> exact nofun

theorem function_inSource (offset : Nat) (source : Text) : (function offset source).InSource := by
  unfold function
  split <;> exact nofun

theorem close_inSource (offset : Nat) (source : Text) : (close offset source).InSource := by
  unfold close
  split
  · exact nofun
  · split <;> exact nofun

theorem insideTagAt_inSource (offset : Nat) (source : Text) :
    (insideTagAt offset source).InSource := by
  unfold insideTagAt
  split
  · exact nofun
  · split
    · exact close_inSource _ _
    split
    · exact literal_inSource _ _
    split
    · exact function_inSource _ _
    split
    · exact inSource_token _ _ _ _ _
    split
    · exact number_inSource _ _ _
    split
    · exact inSource_token _ _ _ _ _
    split
    · exact number_inSource _ _ _
    split
    · exact inSource_token _ _ _ _ _
    · exact nofun

theorem read_inSource (m : Mode) (offset : Nat) (source : Text) :
    (read m offset source).InSource := by
  cases m with
  | outsideTag => exact outsideTag_inSource offset source
  | insideTag => exact insideTagAt_inSource _ _

theorem read_offset {m : Mode} {offset : Nat} {source : Text} {t : Token}
    (h : (read m offset source).outcome = .ok t) :
    offset ≤ t.offset ∧
      (t.kind ≠ .endOfInput → t.offset < offset + (read m offset source).width) := by
  obtain ⟨gap, lexeme, -, -, -, hoffset, hwidth, -, hspelling⟩ := exists_spelling_of_read h
  refine ⟨by omega, fun hkind => ?_⟩
  have hlexeme : 0 < lexeme.length := List.length_pos_iff.mpr (hspelling.lexeme_ne_nil hkind)
  omega

end Lexeme

namespace Lexer

/-- The ways to ask a lexer for more: for the next token, or for the next item of the stream. -/
inductive Request where
  | token | item

/-- What a lexer answers, and the lexer after that. -/
def answer (lx : Lexer) : Request → Option (Except LexError Token) × Lexer
  | .token => (some lx.nextToken.1, lx.nextToken.2)
  | .item =>
      match lx.next? with
      | none => (none, lx)
      | some (item, moved) => (some item, moved)

def token? : Option (Except LexError Token) → Option Token
  | some (.ok t) => some t
  | _ => none

def after (lx : Lexer) : List Request → Lexer
  | [] => lx
  | r :: rs => (lx.answer r).2.after rs

def produced (lx : Lexer) : List Request → List Token
  | [] => []
  | r :: rs => (token? (lx.answer r).1).toList ++ (lx.answer r).2.produced rs

def pass (lx : Lexer) : Lexer :=
  { lx with
    offset := lx.offset + (Lexeme.read lx.mode lx.offset lx.rest).width
    rest := (Lexeme.read lx.mode lx.offset lx.rest).rest }

def passToken (lx : Lexer) (t : Token) : Lexer :=
  { lx.pass with mode := lx.mode.after t.kind, last := some t }

@[simp] theorem passToken_isFinished (lx : Lexer) (t : Token) :
    (lx.passToken t).isFinished = (t.kind == .endOfInput) := rfl

inductive Answers (lx : Lexer) : Request → Option (Except LexError Token) → Lexer → Prop
  | token (r : Request) {t : Token} (hlive : lx.isFinished = false)
      (hread : (Lexeme.read lx.mode lx.offset lx.rest).outcome = .ok t) :
      Answers lx r (some (.ok t)) (lx.passToken t)
  | tokenError {e : LexError} (hlive : lx.isFinished = false)
      (hread : (Lexeme.read lx.mode lx.offset lx.rest).outcome = .error e) :
      Answers lx .token (some (.error e)) lx.pass
  | itemError {e : LexError} (hlive : lx.isFinished = false)
      (hread : (Lexeme.read lx.mode lx.offset lx.rest).outcome = .error e) :
      Answers lx .item (some (.error e)) { lx.pass with failed := true }
  | finished (hfinished : lx.isFinished = true) :
      Answers lx .token (some (.error (.pastEndOfInput lx.offset))) lx
  | closed (hclosed : lx.failed = true ∨ lx.isFinished = true) : Answers lx .item none lx

theorem answers (lx : Lexer) (r : Request) : Answers lx r (lx.answer r).1 (lx.answer r).2 := by
  cases r with
  | token =>
      cases hfinished : lx.isFinished with
      | true =>
          simp only [answer, nextToken, hfinished, if_true]
          exact .finished hfinished
      | false =>
          cases hread : (Lexeme.read lx.mode lx.offset lx.rest).outcome with
          | ok t =>
              have h := Answers.token .token hfinished hread
              simpa [answer, nextToken, hfinished, hread, passToken, pass] using h
          | error e =>
              have h := Answers.tokenError hfinished hread
              simpa [answer, nextToken, hfinished, hread, pass] using h
  | item =>
      by_cases hclosed : lx.failed = true ∨ lx.isFinished = true
      · have h := Answers.closed hclosed
        simpa [answer, next?, hclosed] using h
      · obtain ⟨hfailed, hfinished⟩ := not_or.mp hclosed
        rw [Bool.not_eq_true] at hfailed hfinished
        cases hread : (Lexeme.read lx.mode lx.offset lx.rest).outcome with
        | ok t =>
            have h := Answers.token .item hfinished hread
            simpa [answer, next?, nextToken, hfailed, hfinished, hread, passToken, pass] using h
        | error e =>
            have h := Answers.itemError hfinished hread
            simpa [answer, next?, nextToken, hfailed, hfinished, hread, pass] using h

theorem answers_nextToken {lx : Lexer} {outcome : Except LexError Token}
    (h : lx.nextToken.1 = outcome) : Answers lx .token (some outcome) lx.nextToken.2 := by
  rw [← h]
  exact lx.answers .token

theorem answers_next? {lx moved : Lexer} {item : Except LexError Token}
    (h : lx.next? = some (item, moved)) : Answers lx .item (some item) moved := by
  have hanswer := lx.answers .item
  rwa [answer, h] at hanswer

namespace Answers

variable {lx moved : Lexer} {r : Request} {item : Option (Except LexError Token)}

theorem offset_le (h : Answers lx r item moved) : lx.offset ≤ moved.offset := by
  cases h with
  | token => exact Nat.le_add_right _ _
  | tokenError => exact Nat.le_add_right _ _
  | itemError => exact Nat.le_add_right _ _
  | finished => exact Nat.le_refl _
  | closed => exact Nat.le_refl _

theorem failed (h : Answers lx r item moved) (hfailed : lx.failed = true) :
    moved.failed = true := by
  cases h with
  | itemError => rfl
  | _ => exact hfailed

theorem eq_of_isFinished (h : Answers lx r item moved) (hfinished : lx.isFinished = true) :
    moved = lx := by
  cases h with
  | token _ hlive => simp [hfinished] at hlive
  | tokenError hlive => simp [hfinished] at hlive
  | itemError hlive => simp [hfinished] at hlive
  | finished => rfl
  | closed => rfl

theorem of_error {e : LexError} (h : Answers lx r (some (.error e)) moved) :
    moved.mode = lx.mode ∧ moved.last = lx.last := by
  cases h with
  | tokenError => exact ⟨rfl, rfl⟩
  | itemError => exact ⟨rfl, rfl⟩
  | finished => exact ⟨rfl, rfl⟩

theorem failed_of_error {e : LexError} (h : Answers lx .item (some (.error e)) moved) :
    moved.failed = true := by
  cases h
  rfl

theorem read_of_token {t : Token} (h : Answers lx r (some (.ok t)) moved) :
    (Lexeme.read lx.mode lx.offset lx.rest).outcome = .ok t := by
  cases h with
  | token _ _ hread => exact hread

theorem finished_of_pastEndOfInput {offset : Nat}
    (h : Answers lx r (some (.error (.pastEndOfInput offset))) moved) :
    lx.isFinished = true ∧ offset = lx.offset := by
  have hsource := Lexeme.read_inSource lx.mode lx.offset lx.rest offset
  cases h with
  | tokenError _ hread => exact (hsource hread).elim
  | itemError _ hread => exact (hsource hread).elim
  | finished hfinished => exact ⟨hfinished, rfl⟩

end Answers

/-- The latest of the tokens that opens or closes a tag. -/
def latestMark? (tokens : List Token) : Option Token :=
  (tokens.filter fun t => t.kind = .tagOpen ∨ t.kind = .tagClose).getLast?

theorem latestMark?_of_mark {t : Token} (h : t.kind = .tagOpen ∨ t.kind = .tagClose)
    (tokens : List Token) : latestMark? (tokens ++ [t]) = some t := by
  simp [latestMark?, h]

theorem latestMark?_of_not_mark {t : Token} (h : ¬(t.kind = .tagOpen ∨ t.kind = .tagClose))
    (tokens : List Token) : latestMark? (tokens ++ [t]) = latestMark? tokens := by
  simp [latestMark?, h]

theorem insideTag_after_iff {m : Mode} {tokens : List Token} (t : Token)
    (h : m = .insideTag ↔ ∃ mark ∈ latestMark? tokens, mark.kind = .tagOpen) :
    m.after t.kind = .insideTag ↔
      ∃ mark ∈ latestMark? (tokens ++ [t]), mark.kind = .tagOpen := by
  by_cases hmark : t.kind = .tagOpen ∨ t.kind = .tagClose
  · rw [latestMark?_of_mark hmark]
    obtain hkind | hkind := hmark <;> simp [hkind, Mode.after]
  · have hmode : m.after t.kind = m := by
      obtain ⟨kind, value, offset⟩ := t
      cases kind <;> simp_all [Mode.after]
    rw [latestMark?_of_not_mark hmark, hmode]
    exact h

/-- A lexer that has handed out tokens of a source. They lie behind it, but for the end of the input,
after which there are no more. -/
structure Account (source : Text) (tokens : List Token) (lx : Lexer) : Prop where
  conserves : lx.offset + lx.rest.length = source.length
  mode : lx.mode = .insideTag ↔ ∃ mark ∈ latestMark? tokens, mark.kind = .tagOpen
  last : lx.last = tokens.getLast?
  increasing : tokens.Pairwise fun t u => t.offset < u.offset
  behind : ∀ t ∈ tokens, t.kind ≠ .endOfInput → t.offset < lx.offset
  ended : ∀ t ∈ tokens, t.kind = .endOfInput → t.offset = source.length ∧ lx.isFinished = true
  finished : lx.isFinished = true → lx.offset = source.length
  length_le : tokens.length ≤ lx.offset + if lx.isFinished then 1 else 0

theorem account_ofSource (source : Text) : Account source [] (ofSource source) where
  conserves := Nat.zero_add _
  mode := by simp [ofSource, latestMark?]
  last := rfl
  increasing := .nil
  behind := nofun
  ended := nofun
  finished := nofun
  length_le := Nat.zero_le _

namespace Account

variable {source : Text} {tokens : List Token} {lx : Lexer}

theorem pass_conserves (h : Account source tokens lx) :
    lx.pass.offset + lx.pass.rest.length = source.length := by
  have hconserves := Lexeme.read_conserves lx.mode lx.offset lx.rest
  have hsource := h.conserves
  unfold Lexeme.Conserves at hconserves
  simp only [Lexer.pass]
  omega

theorem pass (h : Account source tokens lx) : Account source tokens lx.pass where
  conserves := h.pass_conserves
  mode := h.mode
  last := h.last
  increasing := h.increasing
  behind t ht hkind := Nat.lt_add_right _ (h.behind t ht hkind)
  ended := h.ended
  finished hfinished := by
    have hsource := h.pass_conserves
    have hoffset := h.finished hfinished
    simp only [Lexer.pass] at hsource ⊢
    omega
  length_le := h.length_le.trans (Nat.add_le_add_right (Nat.le_add_right _ _) _)

theorem fail (h : Account source tokens lx) : Account source tokens { lx with failed := true } :=
  ⟨h.conserves, h.mode, h.last, h.increasing, h.behind, h.ended, h.finished, h.length_le⟩

/-- At the end of the input nothing is left, and nothing is passed over for it. -/
theorem offset_of_endOfInput (h : Account source tokens lx) {t : Token}
    (hread : (Lexeme.read lx.mode lx.offset lx.rest).outcome = .ok t)
    (hkind : t.kind = .endOfInput) :
    t.offset = source.length ∧ lx.pass.offset = source.length := by
  obtain ⟨-, hrest, rfl⟩ := Lexeme.read_endOfInput hread hkind
  have hconserves := h.conserves
  have hsource := h.pass_conserves
  rw [hrest, List.length_nil, Nat.add_zero] at hconserves
  refine ⟨hconserves, ?_⟩
  simp only [Lexer.pass] at hsource ⊢
  omega

theorem behind_of_live (h : Account source tokens lx) (hlive : lx.isFinished = false) :
    ∀ t ∈ tokens, t.offset < lx.offset := by
  intro t ht
  refine h.behind t ht fun hkind => ?_
  rw [(h.ended t ht hkind).2] at hlive
  contradiction

theorem passToken (h : Account source tokens lx) (hlive : lx.isFinished = false) {t : Token}
    (hread : (Lexeme.read lx.mode lx.offset lx.rest).outcome = .ok t) :
    Account source (tokens ++ [t]) (lx.passToken t) := by
  obtain ⟨hfrom, hwithin⟩ := Lexeme.read_offset hread
  have hbehind := h.behind_of_live hlive
  refine
    { conserves := h.pass_conserves
      mode := insideTag_after_iff t h.mode
      last := List.getLast?_concat.symm
      increasing := ?increasing
      behind := ?behind
      ended := ?ended
      finished := ?finished
      length_le := ?length_le }
  case increasing =>
    rw [List.pairwise_append]
    refine ⟨h.increasing, List.pairwise_singleton _ _, fun u hu v hv => ?_⟩
    obtain rfl := List.mem_singleton.mp hv
    exact Nat.lt_of_lt_of_le (hbehind u hu) hfrom
  case behind =>
    intro u hu hkind
    obtain hu | hu := List.mem_append.mp hu
    · exact Nat.lt_add_right _ (hbehind u hu)
    · obtain rfl := List.mem_singleton.mp hu
      exact hwithin hkind
  case ended =>
    intro u hu hkind
    obtain hu | hu := List.mem_append.mp hu
    · rw [(h.ended u hu hkind).2] at hlive
      contradiction
    · obtain rfl := List.mem_singleton.mp hu
      exact ⟨(h.offset_of_endOfInput hread hkind).1, by simp [hkind]⟩
  case finished =>
    intro hfinished
    exact (h.offset_of_endOfInput hread (by simpa using hfinished)).2
  case length_le =>
    have hlength : tokens.length ≤ lx.offset := by simpa [hlive] using h.length_le
    have hoffset : lx.offset ≤ (lx.passToken t).offset := Nat.le_add_right _ _
    rw [List.length_append, List.length_singleton, passToken_isFinished]
    by_cases hkind : t.kind = .endOfInput
    · simp only [hkind, beq_self_eq_true, if_true]
      omega
    · have hadvances : lx.offset < (lx.passToken t).offset :=
        Nat.lt_of_le_of_lt hfrom (hwithin hkind)
      omega

theorem answers (h : Account source tokens lx) {r : Request}
    {item : Option (Except LexError Token)} {moved : Lexer} (hanswer : Answers lx r item moved) :
    Account source (tokens ++ (token? item).toList) moved := by
  cases hanswer with
  | token _ hlive hread => exact h.passToken hlive hread
  | tokenError => simpa [token?] using h.pass
  | itemError => simpa [token?] using h.pass.fail
  | finished => simpa [token?] using h
  | closed => simpa [token?] using h

theorem after (h : Account source tokens lx) (rs : List Request) :
    Account source (tokens ++ lx.produced rs) (lx.after rs) := by
  induction rs generalizing tokens lx with
  | nil => simpa [produced, Lexer.after] using h
  | cons r rs ih =>
      rw [produced, ← List.append_assoc]
      exact ih (h.answers (lx.answers r))

end Account

/-! What further requests keep. -/

theorem offset_le_after (lx : Lexer) (rs : List Request) : lx.offset ≤ (lx.after rs).offset := by
  induction rs generalizing lx with
  | nil => exact Nat.le_refl _
  | cons r rs ih => exact (lx.answers r).offset_le.trans (ih _)

theorem after_of_isFinished {lx : Lexer} (h : lx.isFinished = true) (rs : List Request) :
    lx.after rs = lx := by
  induction rs with
  | nil => rfl
  | cons r rs ih => rw [after, (lx.answers r).eq_of_isFinished h, ih]

theorem failed_after {lx : Lexer} (h : lx.failed = true) (rs : List Request) :
    (lx.after rs).failed = true := by
  induction rs generalizing lx with
  | nil => exact h
  | cons r rs ih => exact ih ((lx.answers r).failed h)

theorem next?_eq_none_iff {lx : Lexer} :
    lx.next? = none ↔ lx.failed = true ∨ lx.isFinished = true := by
  unfold next?
  split
  · rename_i hclosed
    simpa using hclosed
  · rename_i hopen
    have hlive : ¬(lx.failed = true ∨ lx.isFinished = true) := by simpa using hopen
    split <;> simp [hlive]

theorem next?_after {lx : Lexer} (h : lx.next? = none) (rs : List Request) :
    (lx.after rs).next? = none := by
  obtain hfailed | hfinished := next?_eq_none_iff.mp h
  · exact next?_eq_none_iff.mpr (.inl (failed_after hfailed rs))
  · rwa [after_of_isFinished hfinished]

theorem nextToken_eq_pastEndOfInput_iff {lx : Lexer} {offset : Nat} :
    lx.nextToken.1 = .error (.pastEndOfInput offset) ↔
      lx.isFinished = true ∧ offset = lx.offset := by
  constructor
  · intro h
    exact (answers_nextToken h).finished_of_pastEndOfInput
  · rintro ⟨hfinished, rfl⟩
    simp [nextToken, hfinished]

namespace Account

variable {source : Text} {tokens : List Token} {lx : Lexer}

theorem isFinished_iff (h : Account source tokens lx) :
    lx.isFinished = true ↔ ∃ t ∈ tokens, t.kind = .endOfInput := by
  constructor
  · intro hfinished
    rw [isFinished, h.last, Option.any_eq_true] at hfinished
    obtain ⟨t, ht, hkind⟩ := hfinished
    exact ⟨t, List.mem_of_getLast? ht, by simpa using hkind⟩
  · rintro ⟨t, ht, hkind⟩
    exact (h.ended t ht hkind).2

theorem endOfInput_le_one (h : Account source tokens lx) :
    tokens.countP (fun t => t.kind = .endOfInput) ≤ 1 := by
  rw [List.countP_eq_length_filter]
  have hincreasing := h.increasing.filter fun t => t.kind = .endOfInput
  have hended : ∀ t ∈ tokens.filter (fun t => t.kind = .endOfInput), t.offset = source.length := by
    intro t ht
    obtain ⟨ht, hkind⟩ := List.mem_filter.mp ht
    exact (h.ended t ht (by simpa using hkind)).1
  generalize tokens.filter (fun t => t.kind = .endOfInput) = ends at hincreasing hended ⊢
  match ends with
  | [] => simp
  | [_] => simp
  | t :: u :: _ =>
      have hlt := (List.pairwise_cons.mp hincreasing).1 u (by simp)
      rw [hended t (by simp), hended u (by simp)] at hlt
      exact (Nat.lt_irrefl _ hlt).elim

end Account

/-- What a user of a lexer can rely on, after it has handed out tokens of a source. -/
structure Reliable (source : Text) (tokens : List Token) (lx : Lexer) : Prop where
  offset_le : lx.offset ≤ source.length
  offset_mono (rs : List Request) : lx.offset ≤ (lx.after rs).offset
  insideTag_iff : lx.mode = .insideTag ↔ ∃ mark ∈ latestMark? tokens, mark.kind = .tagOpen
  last_eq : lx.last = tokens.getLast?
  of_error {e : LexError} (h : lx.nextToken.1 = .error e) :
    lx.nextToken.2.mode = lx.mode ∧ lx.nextToken.2.last = lx.last
  increasing : tokens.Pairwise fun t u => t.offset < u.offset
  length_le : tokens.length ≤ source.length + 1
  endOfInput_le_one : tokens.countP (fun t => t.kind = .endOfInput) ≤ 1
  of_endOfInput {r : Request} {t : Token} (h : (lx.answer r).1 = some (.ok t))
    (hkind : t.kind = .endOfInput) : lx.mode = .outsideTag ∧ t.offset = source.length
  pastEndOfInput_iff :
    (∃ offset, lx.nextToken.1 = .error (.pastEndOfInput offset)) ↔
      ∃ t ∈ tokens, t.kind = .endOfInput
  of_pastEndOfInput {offset : Nat} (h : lx.nextToken.1 = .error (.pastEndOfInput offset)) :
    offset = source.length ∧ ∀ rs, lx.after rs = lx
  /-- The end of the stream is final. -/
  of_none (h : lx.next? = none) (rs : List Request) : (lx.after rs).next? = none
  /-- An error ends the stream, also if single tokens are asked for after it. -/
  of_item_error {e : LexError} {moved : Lexer} (h : lx.next? = some (.error e, moved))
    (rs : List Request) : (moved.after rs).next? = none

theorem Account.reliable {source : Text} {tokens : List Token} {lx : Lexer}
    (h : Account source tokens lx) : Reliable source tokens lx where
  offset_le := by
    have hsource := h.conserves
    omega
  offset_mono := lx.offset_le_after
  insideTag_iff := h.mode
  last_eq := h.last
  of_error herror := (answers_nextToken herror).of_error
  increasing := h.increasing
  length_le := by
    have hsource := h.conserves
    have hlength := h.length_le
    split at hlength <;> omega
  endOfInput_le_one := h.endOfInput_le_one
  of_endOfInput {r t} htoken hkind := by
    have hanswer := lx.answers r
    rw [htoken] at hanswer
    have hread := hanswer.read_of_token
    exact ⟨(Lexeme.read_endOfInput hread hkind).1, (h.offset_of_endOfInput hread hkind).1⟩
  pastEndOfInput_iff := by
    simp only [nextToken_eq_pastEndOfInput_iff, exists_and_left, exists_eq, and_true]
    exact h.isFinished_iff
  of_pastEndOfInput hpast := by
    obtain ⟨hfinished, rfl⟩ := nextToken_eq_pastEndOfInput_iff.mp hpast
    exact ⟨h.finished hfinished, after_of_isFinished hfinished⟩
  of_none hnone := next?_after hnone
  of_item_error herror rs :=
    next?_eq_none_iff.mpr (.inl (failed_after (answers_next? herror).failed_of_error rs))

/-- However a lexer is used, its user can rely on it. -/
theorem reliable_of_use (source : Text) (rs : List Request) :
    Reliable source ((ofSource source).produced rs) ((ofSource source).after rs) :=
  ((account_ofSource source).after rs).reliable

end Lexer

end TagMarkup
