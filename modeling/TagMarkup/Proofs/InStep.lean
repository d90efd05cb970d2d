import Mathlib
import TagMarkup.Proofs.Pulling
import TagMarkup.Proofs.WellFormed

namespace TagMarkup

/-! The place of an assembly tells the mode in which its next token is read. -/

/-- The mode in which the tokens for a place are read. -/
def Place.mode : Place → Mode
  | betweenTags => .outsideTag
  | tagName _ => .insideTag
  | echo _ => .insideTag
  | loopName _ => .insideTag
  | loopBounds _ _ _ => .insideTag
  | endClose _ => .insideTag

theorem TagName.mode_place (n : TagName) (opened : Nat) : (n.place opened).mode = .insideTag := by
  cases n <;> rfl

theorem Token.IsInner.after_kind {t : Token} (h : t.IsInner) (m : Mode) : m.after t.kind = m := by
  obtain ⟨kind, value, offset⟩ := t
  cases kind with
  | tagOpen => exact (h.ne_tagOpen rfl).elim
  | tagClose => exact (h.ne_tagClose rfl).elim
  | _ => rfl

namespace ParseError

/-- What an error shows of a token that does not fit into its tag: the token as it is described, and
its offset. -/
def shown? : ParseError → Option (Text × Nat)
  | unknownTag name offset => some (name, offset)
  | missingLoopName found offset => some (found, offset)
  | invalidBound found offset => some (found, offset)
  | unclosedLoopTag found offset => some (found, offset)
  | unclosedEndTag found offset => some (found, offset)
  | invalidElement found offset => some (found, offset)
  | _ => none

end ParseError

theorem pastEndOfInput_not_mem_itemsFrom (past : Nat) (m : Mode) (offset : Nat) (source : Text) :
    .error (.pastEndOfInput past) ∉ itemsFrom m offset source := by
  induction m, offset, source using itemsFrom_induction with
  | @error m offset source e h =>
      rw [itemsFrom_of_error h, List.mem_singleton]
      rintro ⟨⟩
      exact Lexeme.read_inSource m offset source past h
  | endOfInput h hkind =>
      rw [itemsFrom_of_endOfInput h hkind, List.mem_singleton]
      simp
  | token h hkind ih =>
      rw [itemsFrom_of_token h hkind, List.mem_cons]
      simpa using ih

theorem tokenize_ne_pastEndOfInput (source : Text) (past : Nat) :
    tokenize source ≠ .error (.pastEndOfInput past) := by
  intro h
  obtain ⟨tokens, hitems⟩ := tokenize_eq_error_iff.mp h
  have hmem : .error (.pastEndOfInput past) ∈ itemsFrom .outsideTag 0 source := by simp [hitems]
  exact pastEndOfInput_not_mem_itemsFrom past _ _ _ hmem

namespace Assembly

variable {options : ParseOptions} {a next final : Assembly} {t : Token} {events : List Event}
  {e : ParseError}

/-- A token changes the place of the parser as it changes the mode of the lexer. -/
theorem Takes.mode_eq (h : Takes a t events next) :
    next.place.mode = a.place.mode.after t.kind := by
  cases h with
  | text content offset hplace =>
      rw [push_place, hplace]
      rfl
  | mark hplace hkind =>
      rw [hplace, hkind]
      rfl
  | tag n hplace hname =>
      rw [hname.isInner.after_kind, hplace]
      exact n.mode_place _
  | element hplace helement =>
      rw [helement.isInner.after_kind, hplace]
      rfl
  | closeEcho hplace hkind =>
      rw [push_place, hplace, hkind]
      rfl
  | subject hplace hname hvalid =>
      rw [hname.isInner.after_kind, hplace]
      rfl
  | bound hplace hlength hbound =>
      rw [hbound.isInner.after_kind, hplace]
      rfl
  | openLoop hplace hkind =>
      rw [hplace, hkind]
      rfl
  | closeLoop hplace hkind hloops =>
      rw [leave, push_place, hplace, hkind]
      rfl

/-- After tokens that are taken, the stream goes on in the mode of the place that they lead to. -/
theorem Steps.exists_itemsFrom {front : List Token} (h : Steps a front events final) {offset : Nat}
    {source : Text} {items : List (Except LexError Token)}
    (hitems : itemsFrom a.place.mode offset source = front.map .ok ++ items) :
    ∃ offset' source', items = itemsFrom final.place.mode offset' source' := by
  induction h generalizing offset source with
  | refl => exact ⟨offset, source, hitems.symm⟩
  | cons hstep hrest ih =>
      obtain ⟨-, hlater⟩ := itemsFrom_eq_cons hitems
      rw [if_neg hstep.kind_ne_endOfInput, ← hstep.mode_eq] at hlater
      exact ih hlater.symm

/-- The token after those that are taken is one that is read at the place that they lead to. -/
theorem Steps.admits_next {front : List Token} (h : Steps .empty front events final) {source : Text}
    {rest : List (Except LexError Token)}
    (hitems : itemsFrom .outsideTag 0 source = front.map .ok ++ .ok t :: rest) :
    final.place.mode.Admits t.kind ∧ t.IsSpelled := by
  obtain ⟨offset, source', hnext⟩ := h.exists_itemsFrom hitems
  obtain ⟨hread, -⟩ := itemsFrom_eq_cons hnext.symm
  obtain ⟨_, lexeme, -, -, -, -, -, hadmits, hspelling⟩ := Lexeme.exists_spelling_of_read hread
  exact ⟨hadmits, lexeme, _, hspelling⟩

theorem Rejects.ne_unexpectedToken (h : Rejects options a t e)
    (hadmits : a.place.mode.Admits t.kind) (hspelled : t.IsSpelled) (found : Text) (offset : Nat) :
    e ≠ .unexpectedToken found offset := by
  cases h with
  | unexpected hplace hend hmark htext =>
      rw [hplace] at hadmits
      obtain hkind | hkind | hkind := hadmits
      · obtain ⟨lexeme, after, hspelling⟩ := hspelled
        obtain ⟨kind, value, start⟩ := t
        obtain rfl : kind = .text := hkind
        cases hspelling with
        | text => exact (htext _ rfl rfl).elim
      · exact (hmark hkind).elim
      · exact (hend hkind).elim
  | _ => simp

/-- A token is shown only by an error about the tag that it stands in. -/
theorem Rejects.of_shown? (h : Rejects options a t e) {found : Text} {offset : Nat}
    (hshown : e.shown? = some (found, offset)) :
    found = t.describe ∧ offset = t.offset ∧ a.place.mode = .insideTag := by
  cases h with
  | unexpected | unterminatedLoop | emptyTag | tooFewBounds | unmatchedEnd => cases hshown
  | unknownTag hplace | invalidElement hplace | missingLoopName hplace | unclosedLoopTag hplace
  | invalidBound hplace | unclosedEndTag hplace =>
      cases hshown
      rw [hplace]
      exact ⟨rfl, rfl, rfl⟩

end Assembly

namespace Document

/-- The errors that a parse guards against and never gives, and what the tokens are that its errors
show. -/
structure StaysInStep (options : ParseOptions) (source : Text) : Prop where
  ne_unexpectedToken (found : Text) (offset : Nat) :
    parse options source ≠ .error (.unexpectedToken found offset)
  ne_pastEndOfInput (offset : Nat) : parse options source ≠ .error (.lex (.pastEndOfInput offset))
  tokenize_ne (offset : Nat) : tokenize source ≠ .error (.pastEndOfInput offset)
  /-- The token that is shown is the one that was pulled last. -/
  of_shown {e : ParseError} {found : Text} {offset : Nat} (h : parse options source = .error e)
    (hshown : e.shown? = some (found, offset)) :
    ∃ before t, (Assembly.empty.pull options (Lexer.ofSource source)).tokens = before ++ [t] ∧
      found = t.describe ∧ offset = t.offset ∧
      t.kind ≠ .text ∧ t.kind ≠ .tagOpen ∧ t.kind ≠ .endOfInput

variable {options : ParseOptions} {source : Text} {e : ParseError}

theorem exists_rejects_of_parse (h : parse options source = .error e)
    (hgrammar : ∀ lexical, e ≠ .lex lexical) :
    ∃ before t a, (Assembly.empty.pull options (Lexer.ofSource source)).tokens = before ++ [t] ∧
      Assembly.Rejects options a t e ∧ a.place.mode.Admits t.kind ∧ t.IsSpelled := by
  obtain ⟨tokens, hcourse⟩ := exists_course options source
  have hpull : Assembly.empty.pull options (Lexer.ofSource source) = _ :=
    hcourse.pull_eq ⟨rfl, rfl⟩ rfl
  obtain ⟨rest, hitems⟩ := hcourse.prefix_items
  rw [h] at hcourse
  obtain ⟨before, t, a, events, rfl, hsteps, hrejects⟩ := hcourse.exists_rejects hgrammar
  rw [List.map_append, List.append_assoc] at hitems
  obtain ⟨hadmits, hspelled⟩ := hsteps.admits_next hitems.symm
  exact ⟨before, t, a, by rw [hpull], hrejects, hadmits, hspelled⟩

/-- The parser and the lexer stay in step. -/
theorem staysInStep_of_parse (options : ParseOptions) (source : Text) :
    StaysInStep options source where
  ne_unexpectedToken found offset := by
    intro h
    obtain ⟨-, t, a, -, hrejects, hadmits, hspelled⟩ := exists_rejects_of_parse h (by simp)
    exact hrejects.ne_unexpectedToken hadmits hspelled found offset rfl
  ne_pastEndOfInput offset := by
    intro h
    exact tokenize_ne_pastEndOfInput source offset (tokenize_of_lex h)
  tokenize_ne := tokenize_ne_pastEndOfInput source
  of_shown := by
    intro e found offset h hshown
    have hgrammar : ∀ lexical, e ≠ .lex lexical := by
      rintro lexical rfl
      cases hshown
    obtain ⟨before, t, a, htokens, hrejects, hadmits, -⟩ := exists_rejects_of_parse h hgrammar
    obtain ⟨hfound, hoffset, hmode⟩ := hrejects.of_shown? hshown
    rw [hmode] at hadmits
    exact ⟨before, t, htokens, hfound, hoffset, hadmits⟩

example : parse {} ['{', '$', 'F', 'O', 'R', ' ', 'i', ' ', '"', '{', '$', '"', '$', '}'] =
    .error (.invalidBound ['"', '{', '$', '"'] 8) := by
  cbv

end Document

end TagMarkup
