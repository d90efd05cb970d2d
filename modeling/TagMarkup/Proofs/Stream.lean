import TagMarkup.Proofs.Reading
import TagMarkup.Token.Stream

namespace TagMarkup

/-! The token stream depends on the mode, the offset and the characters that are left. -/

open Unicode

def Blank (gap : Text) : Prop :=
  ∀ c ∈ gap, isWhiteSpace c = true

theorem Blank.nil : Blank [] := by
  intro c hc
  contradiction

theorem Spelling.head_not_isWhiteSpace {kind : TokenKind} {value : Option TokenValue}
    {lexeme after : Text} (h : Spelling kind value lexeme after)
    (hmode : Mode.insideTag.Admits kind) :
    ∃ c rest, lexeme = c :: rest ∧ isWhiteSpace c = false := by
  have hletter {c : Char} (hc : isNameStart c = true) : isWhiteSpace c = false := by
    rw [Bool.eq_false_iff]
    intro hblank
    simp [not_isNameStart_of_isWhiteSpace hblank] at hc
  have hnumeral (hrun : IsNumeral after lexeme) :
      ∃ c rest, lexeme = c :: rest ∧ isWhiteSpace c = false := by
    obtain ⟨sign, c, run, rfl | rfl, rfl, hdigit, -, -⟩ := hrun
    · exact ⟨c, run, rfl, not_isWhiteSpace_of_isDigit hdigit⟩
    · exact ⟨'-', c :: run, rfl, by decide⟩
  cases h with
  | tagClose => exact ⟨_, _, rfl, by decide⟩
  | equals => exact ⟨_, _, rfl, by decide⟩
  | name hrun =>
      cases lexeme with
      | nil => exact hrun.elim
      | cons c run => exact ⟨c, run, rfl, hletter hrun.1⟩
  | function hrun => exact ⟨_, _, rfl, by decide⟩
  | integer hrun hvalue => exact hnumeral hrun
  | double hrun hvalue => exact hnumeral hrun
  | operator hc hminus =>
      simp only [List.mem_cons, List.not_mem_nil, or_false] at hc
      obtain rfl | rfl | rfl | rfl | rfl := hc
      all_goals exact ⟨_, _, rfl, by decide⟩
  | string => exact ⟨_, _, rfl, by decide⟩
  | _ => simp [Mode.Admits] at hmode

theorem Spelling.endOfInput_after {value : Option TokenValue} {lexeme after : Text}
    (h : Spelling .endOfInput value lexeme after) : after = [] := by
  cases h
  rfl

namespace Lexeme

theorem insideTag_of_head {offset : Nat} {c : Char} {rest : Text} (hc : isWhiteSpace c = false) :
    insideTag offset (c :: rest) = insideTagAt offset (c :: rest) := by
  simp [insideTag, hc, after]

theorem read_of_spelling {m : Mode} (offset : Nat) {kind : TokenKind} {value : Option TokenValue}
    {lexeme after : Text} (h : Spelling kind value lexeme after) (hmode : m.Admits kind) :
    read m offset (lexeme ++ after) = token kind value offset lexeme.length after := by
  cases m with
  | outsideTag => exact outsideTag_of_spelling offset h hmode
  | insideTag =>
      obtain ⟨c, rest, rfl, hc⟩ := h.head_not_isWhiteSpace hmode
      exact (insideTag_of_head hc).trans (insideTagAt_of_spelling offset h hmode)

theorem exists_spelling_of_read {m : Mode} {offset : Nat} {source : Text} {t : Token}
    (h : (read m offset source).outcome = .ok t) :
    ∃ gap lexeme, source = gap ++ (lexeme ++ (read m offset source).rest) ∧ Blank gap ∧
      (m = .outsideTag → gap = []) ∧ t.offset = offset + gap.length ∧
      (read m offset source).width = gap.length + lexeme.length ∧ m.Admits t.kind ∧
      Spelling t.kind t.value lexeme (read m offset source).rest := by
  cases m with
  | outsideTag =>
      obtain ⟨hmode, hoffset, lexeme, hsource, hwidth, hspelling⟩ :=
        outsideTag_spells offset source t h
      exact ⟨[], lexeme, hsource, .nil, fun _ => rfl, hoffset,
        hwidth.trans (Nat.zero_add _).symm, hmode, hspelling⟩
  | insideTag =>
      obtain ⟨hmode, hoffset, lexeme, hsource, hwidth, hspelling⟩ :=
        insideTagAt_spells _ (source.dropWhile isWhiteSpace) t h
      refine ⟨source.takeWhile isWhiteSpace, lexeme, ?_, fun _ hc => List.mem_takeWhile_imp hc,
        nofun, hoffset, congrArg _ hwidth, hmode, hspelling⟩
      conv => lhs; rw [← List.takeWhile_append_dropWhile (p := isWhiteSpace) (l := source)]
      exact congrArg _ hsource

theorem read_endOfInput {m : Mode} {offset : Nat} {source : Text} {t : Token}
    (h : (read m offset source).outcome = .ok t) (hkind : t.kind = .endOfInput) :
    m = .outsideTag ∧ source = [] ∧ t = ⟨.endOfInput, none, offset⟩ := by
  obtain ⟨gap, lexeme, hsource, -, hgap, hoffset, -, hadmits, hspelling⟩ :=
    exists_spelling_of_read h
  obtain ⟨kind, value, _⟩ := t
  obtain rfl : kind = .endOfInput := hkind
  cases m with
  | insideTag => exact (hadmits.2.2 rfl).elim
  | outsideTag =>
      obtain rfl := hgap rfl
      obtain rfl : _ = offset := hoffset
      generalize (read .outsideTag _ source).rest = rest at hsource hspelling
      cases hspelling
      exact ⟨rfl, hsource, rfl⟩

theorem read_gap {gap : Text} (hgap : Blank gap) (offset : Nat) (source : Text) :
    read .insideTag offset (gap ++ source) =
      (read .insideTag (offset + gap.length) source).after gap.length := by
  have hlength (a b c : Nat) : a + (b + c) = a + b + c := (Nat.add_assoc a b c).symm
  simp only [read, insideTag, List.takeWhile_append_of_pos hgap,
    List.dropWhile_append_of_pos hgap, List.length_append, after, hlength]

end Lexeme

/-- In one mode a text begins with the spelling of one token at most. -/
theorem Spelling.unique {m : Mode} {kind kind' : TokenKind} {value value' : Option TokenValue}
    {lexeme lexeme' after after' : Text} (h : Spelling kind value lexeme after)
    (hmode : m.Admits kind) (h' : Spelling kind' value' lexeme' after') (hmode' : m.Admits kind')
    (happend : lexeme ++ after = lexeme' ++ after') :
    kind = kind' ∧ value = value' ∧ lexeme = lexeme' ∧ after = after' := by
  have hread := Lexeme.read_of_spelling 0 h hmode
  rw [happend, Lexeme.read_of_spelling 0 h' hmode'] at hread
  have htoken := Except.ok.inj (congrArg Lexeme.outcome hread)
  have hwidth : lexeme.length = lexeme'.length := (congrArg Lexeme.width hread).symm
  exact ⟨(congrArg Token.kind htoken).symm, (congrArg Token.value htoken).symm,
    List.append_inj happend hwidth⟩

/-- The characters that spell a token, where it stands in a source. -/
def Token.SpelledIn (t : Token) (source lexeme : Text) : Prop :=
  ∃ after, source.drop t.offset = lexeme ++ after ∧ Spelling t.kind t.value lexeme after

/-- The items of a lexer that has come to a place in a source. -/
def itemsFrom (m : Mode) (offset : Nat) (source : Text) : List (Except LexError Token) :=
  Lexer.items ⟨source, offset, m, none, false⟩

theorem tokenize_eq (source : Text) : tokenize source = collect (itemsFrom .outsideTag 0 source) :=
  rfl

namespace Lexer

def IsLive (lx : Lexer) : Prop :=
  lx.failed = false ∧ lx.isFinished = false

def afterToken (lx : Lexer) (t : Token) : Lexer :=
  ⟨(Lexeme.read lx.mode lx.offset lx.rest).rest,
    lx.offset + (Lexeme.read lx.mode lx.offset lx.rest).width, lx.mode.after t.kind, some t, false⟩

theorem afterToken_isLive {lx : Lexer} {t : Token} (hkind : t.kind ≠ .endOfInput) :
    (lx.afterToken t).IsLive :=
  ⟨rfl, by simpa [afterToken, isFinished] using hkind⟩

theorem items_of_token {lx : Lexer} (hlive : lx.IsLive) {t : Token}
    (h : (Lexeme.read lx.mode lx.offset lx.rest).outcome = .ok t) :
    lx.items = .ok t :: (lx.afterToken t).items := by
  have hnext : lx.next? = some (.ok t, lx.afterToken t) := by
    simp [next?, nextToken, hlive.1, hlive.2, h, afterToken]
  rw [items, drain_of_some hnext]
  rfl

theorem items_of_endOfInput {lx : Lexer} (hlive : lx.IsLive) {t : Token}
    (h : (Lexeme.read lx.mode lx.offset lx.rest).outcome = .ok t)
    (hkind : t.kind = .endOfInput) : lx.items = [.ok t] := by
  have hstop : (lx.afterToken t).next? = none := by
    simp [next?, afterToken, isFinished, hkind]
  rw [items_of_token hlive h, items, drain_of_none hstop]

theorem items_of_error {lx : Lexer} (hlive : lx.IsLive) {e : LexError}
    (h : (Lexeme.read lx.mode lx.offset lx.rest).outcome = .error e) : lx.items = [.error e] := by
  have hnext : ∃ moved, lx.next? = some (.error e, moved) ∧ moved.next? = none := by
    simp [next?, nextToken, hlive.1, hlive.2, h]
  obtain ⟨moved, hnext, hstop⟩ := hnext
  rw [items, drain_of_some hnext, drain_of_none hstop]

theorem items_eq_itemsFrom {lx : Lexer} (hlive : lx.IsLive) :
    lx.items = itemsFrom lx.mode lx.offset lx.rest := by
  have hfresh : IsLive ⟨lx.rest, lx.offset, lx.mode, none, false⟩ := ⟨rfl, rfl⟩
  cases h : (Lexeme.read lx.mode lx.offset lx.rest).outcome with
  | error e => exact (items_of_error hlive h).trans (items_of_error hfresh h).symm
  | ok t => exact (items_of_token hlive h).trans (items_of_token hfresh h).symm

end Lexer

theorem itemsFrom_of_error {m : Mode} {offset : Nat} {source : Text} {e : LexError}
    (h : (Lexeme.read m offset source).outcome = .error e) :
    itemsFrom m offset source = [.error e] :=
  Lexer.items_of_error ⟨rfl, rfl⟩ h

theorem itemsFrom_of_endOfInput {m : Mode} {offset : Nat} {source : Text} {t : Token}
    (h : (Lexeme.read m offset source).outcome = .ok t) (hkind : t.kind = .endOfInput) :
    itemsFrom m offset source = [.ok t] :=
  Lexer.items_of_endOfInput ⟨rfl, rfl⟩ h hkind

theorem itemsFrom_of_token {m : Mode} {offset : Nat} {source : Text} {t : Token}
    (h : (Lexeme.read m offset source).outcome = .ok t) (hkind : t.kind ≠ .endOfInput) :
    itemsFrom m offset source = .ok t :: itemsFrom (m.after t.kind)
      (offset + (Lexeme.read m offset source).width) (Lexeme.read m offset source).rest :=
  (Lexer.items_of_token ⟨rfl, rfl⟩ h).trans
    (congrArg _ (Lexer.items_eq_itemsFrom (Lexer.afterToken_isLive hkind)))

/-- Induction along the token stream from a place: over its end, its error, or its first token and
the place after it. -/
theorem itemsFrom_induction {motive : Mode → Nat → Text → Prop}
    (error : ∀ {m offset source e}, (Lexeme.read m offset source).outcome = .error e →
      motive m offset source)
    (endOfInput : ∀ {m offset source t}, (Lexeme.read m offset source).outcome = .ok t →
      t.kind = .endOfInput → motive m offset source)
    (token : ∀ {m offset source t}, (Lexeme.read m offset source).outcome = .ok t →
      t.kind ≠ .endOfInput → motive (m.after t.kind)
        (offset + (Lexeme.read m offset source).width) (Lexeme.read m offset source).rest →
      motive m offset source)
    (m : Mode) (offset : Nat) (source : Text) : motive m offset source := by
  induction hlength : source.length using Nat.strong_induction_on generalizing m offset source with
  | _ length ih =>
      cases h : (Lexeme.read m offset source).outcome with
      | error e => exact error h
      | ok t =>
          by_cases hkind : t.kind = .endOfInput
          · exact endOfInput h hkind
          · have hconserves := Lexeme.read_conserves m offset source
            have hadvances := Lexeme.read_advances m offset source t h hkind
            unfold Lexeme.Conserves at hconserves
            exact token h hkind (ih _ (by omega) _ _ _ rfl)

theorem itemsFrom_ne_nil (m : Mode) (offset : Nat) (source : Text) :
    itemsFrom m offset source ≠ [] := by
  cases h : (Lexeme.read m offset source).outcome with
  | error e => simp [itemsFrom_of_error h]
  | ok t =>
      by_cases hkind : t.kind = .endOfInput
      · simp [itemsFrom_of_endOfInput h hkind]
      · simp [itemsFrom_of_token h hkind]

theorem itemsFrom_eq_cons {m : Mode} {offset : Nat} {source : Text} {t : Token}
    {items : List (Except LexError Token)} (h : itemsFrom m offset source = .ok t :: items) :
    (Lexeme.read m offset source).outcome = .ok t ∧
      items = if t.kind = .endOfInput then [] else itemsFrom (m.after t.kind)
        (offset + (Lexeme.read m offset source).width) (Lexeme.read m offset source).rest := by
  cases hread : (Lexeme.read m offset source).outcome with
  | error e => simp [itemsFrom_of_error hread] at h
  | ok u =>
      by_cases hkind : u.kind = .endOfInput
      · rw [itemsFrom_of_endOfInput hread hkind] at h
        obtain ⟨hhead, rfl⟩ := List.cons_eq_cons.mp h
        cases hhead
        simp [hkind]
      · rw [itemsFrom_of_token hread hkind] at h
        obtain ⟨hhead, rfl⟩ := List.cons_eq_cons.mp h
        cases hhead
        simp [hkind]

theorem itemsFrom_eq_cons_error {m : Mode} {offset : Nat} {source : Text} {e : LexError}
    {items : List (Except LexError Token)} (h : itemsFrom m offset source = .error e :: items) :
    (Lexeme.read m offset source).outcome = .error e ∧ items = [] := by
  cases hread : (Lexeme.read m offset source).outcome with
  | error found =>
      rw [itemsFrom_of_error hread] at h
      obtain ⟨hhead, rfl⟩ := List.cons_eq_cons.mp h
      exact ⟨congrArg _ (Except.error.inj hhead), rfl⟩
  | ok u =>
      by_cases hkind : u.kind = .endOfInput
      · simp [itemsFrom_of_endOfInput hread hkind] at h
      · simp [itemsFrom_of_token hread hkind] at h

theorem eq_nil_of_itemsFrom {front : List Token} {last : Token} (hlast : last.kind = .endOfInput)
    {m : Mode} {offset : Nat} {source : Text} {rest : List (Except LexError Token)}
    (h : itemsFrom m offset source = front.map .ok ++ .ok last :: rest) : rest = [] := by
  induction front generalizing m offset source with
  | nil =>
      obtain ⟨-, hrest⟩ := itemsFrom_eq_cons h
      rwa [if_pos hlast] at hrest
  | cons t front ih =>
      obtain ⟨-, hrest⟩ := itemsFrom_eq_cons h
      split at hrest
      · simp at hrest
      · exact ih hrest.symm

theorem eq_nil_of_itemsFrom_error {front : List Token} {e : LexError} {m : Mode} {offset : Nat}
    {source : Text} {rest : List (Except LexError Token)}
    (h : itemsFrom m offset source = front.map .ok ++ .error e :: rest) : rest = [] := by
  induction front generalizing m offset source with
  | nil => exact (itemsFrom_eq_cons_error h).2
  | cons t front ih =>
      obtain ⟨-, hrest⟩ := itemsFrom_eq_cons h
      split at hrest
      · simp at hrest
      · exact ih hrest.symm

theorem itemsFrom_of_spelling {m : Mode} (offset : Nat) {kind : TokenKind}
    {value : Option TokenValue} {lexeme after : Text} (h : Spelling kind value lexeme after)
    (hmode : m.Admits kind) (hkind : kind ≠ .endOfInput) :
    itemsFrom m offset (lexeme ++ after) = .ok ⟨kind, value, offset⟩ ::
      itemsFrom (m.after kind) (offset + lexeme.length) after := by
  have hread := Lexeme.read_of_spelling offset h hmode
  have hitems := itemsFrom_of_token (t := ⟨kind, value, offset⟩) (congrArg Lexeme.outcome hread)
    hkind
  rw [hread] at hitems
  exact hitems

theorem itemsFrom_nil (offset : Nat) :
    itemsFrom .outsideTag offset [] = [.ok ⟨.endOfInput, none, offset⟩] :=
  itemsFrom_of_endOfInput rfl rfl

theorem itemsFrom_gap {gap : Text} (hgap : Blank gap) (offset : Nat) (source : Text) :
    itemsFrom .insideTag offset (gap ++ source) =
      itemsFrom .insideTag (offset + gap.length) source := by
  have hread := Lexeme.read_gap hgap offset source
  have houtcome : (Lexeme.read .insideTag offset (gap ++ source)).outcome =
      (Lexeme.read .insideTag (offset + gap.length) source).outcome := by
    rw [hread]
    rfl
  cases h : (Lexeme.read .insideTag (offset + gap.length) source).outcome with
  | error e =>
      rw [itemsFrom_of_error h, itemsFrom_of_error (houtcome.trans h)]
  | ok t =>
      have hkind : t.kind ≠ .endOfInput := by
        obtain ⟨-, -, -, -, -, -, -, hmode, -⟩ := Lexeme.exists_spelling_of_read h
        exact hmode.2.2
      rw [itemsFrom_of_token h hkind, itemsFrom_of_token (houtcome.trans h) hkind, hread]
      simp only [Lexeme.after, Nat.add_assoc]

theorem itemsFrom_of_gap {m : Mode} (offset : Nat) {kind : TokenKind}
    {value : Option TokenValue} {gap lexeme after : Text} (hblank : Blank gap)
    (hgap : m = .outsideTag → gap = []) (h : Spelling kind value lexeme after)
    (hmode : m.Admits kind) (hkind : kind ≠ .endOfInput) :
    itemsFrom m offset (gap ++ (lexeme ++ after)) = .ok ⟨kind, value, offset + gap.length⟩ ::
      itemsFrom (m.after kind) (offset + (gap.length + lexeme.length)) after := by
  rw [← Nat.add_assoc, ← itemsFrom_of_spelling (offset + gap.length) h hmode hkind]
  cases m with
  | outsideTag =>
      obtain rfl := hgap rfl
      rfl
  | insideTag => exact itemsFrom_gap hblank offset _

theorem itemsFrom_insideTag_nil (offset : Nat) :
    itemsFrom .insideTag offset [] = [.error (.unterminatedTag offset)] :=
  itemsFrom_of_error rfl

theorem collect_eq_ok_iff {items : List (Except LexError Token)} {tokens : List Token} :
    collect items = .ok tokens ↔ items = tokens.map .ok := by
  induction items generalizing tokens with
  | nil => cases tokens <;> simp [collect]
  | cons item items ih =>
      cases item with
      | error e => cases tokens <;> simp [collect]
      | ok t =>
          cases tokens with
          | nil => cases hrest : collect items <;> simp [collect, hrest, Except.map]
          | cons u tokens =>
              simp only [collect, List.map_cons, List.cons.injEq, Except.ok.injEq, ← ih]
              cases hrest : collect items <;> simp [Except.map]

theorem collect_eq_error_iff {items : List (Except LexError Token)} {e : LexError} :
    collect items = .error e ↔
      ∃ (tokens : List Token) (rest : _), items = tokens.map .ok ++ .error e :: rest := by
  induction items with
  | nil => simp [collect]
  | cons item items ih =>
      cases item with
      | error found =>
          simp only [collect, Except.error.injEq]
          constructor
          · rintro rfl
            exact ⟨[], items, rfl⟩
          · rintro ⟨tokens, rest, hitems⟩
            cases tokens <;> simp at hitems
            exact hitems.1
      | ok t =>
          have hcollect : collect (.ok t :: items) = .error e ↔ collect items = .error e := by
            cases hrest : collect items <;> simp [collect, hrest, Except.map]
          rw [hcollect, ih]
          constructor
          · rintro ⟨tokens, rest, rfl⟩
            exact ⟨t :: tokens, rest, rfl⟩
          · rintro ⟨tokens, rest, hitems⟩
            cases tokens with
            | nil => simp at hitems
            | cons u tokens => exact ⟨tokens, rest, (List.cons_eq_cons.mp hitems).2⟩

theorem tokenize_eq_error_iff {source : Text} {e : LexError} :
    tokenize source = .error e ↔
      ∃ tokens : List Token, itemsFrom .outsideTag 0 source = tokens.map .ok ++ [.error e] := by
  rw [tokenize_eq, collect_eq_error_iff]
  constructor
  · rintro ⟨tokens, rest, hitems⟩
    obtain rfl := eq_nil_of_itemsFrom_error hitems
    exact ⟨tokens, hitems⟩
  · rintro ⟨tokens, hitems⟩
    exact ⟨tokens, [], hitems⟩

end TagMarkup
