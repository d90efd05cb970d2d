import TagMarkup.Proofs.Grammar

namespace TagMarkup

namespace Assembly

/-- The error with which an assembly rejects a token. -/
inductive Rejects (options : ParseOptions) (a : Assembly) (t : Token) : ParseError → Prop
  | unexpected (hplace : a.place = .betweenTags) (hend : t.kind ≠ .endOfInput)
      (hmark : t.kind ≠ .tagOpen)
      (htext : ∀ content, t.kind = .text → t.value ≠ some (.text content)) :
      Rejects options a t (.unexpectedToken t.describe t.offset)
  | unterminatedLoop {l : OpenLoop} {loops : List OpenLoop} (hplace : a.place = .betweenTags)
      (hkind : t.kind = .endOfInput) (hstrict : options.allowUnclosed = false)
      (hloops : a.loops = l :: loops) :
      Rejects options a t (.unterminatedLoop l.header.name l.opened)
  | emptyTag {opened : Nat} (hplace : a.place = .tagName opened) (hkind : t.kind = .tagClose) :
      Rejects options a t (.emptyTag opened)
  | unknownTag {opened : Nat} (hplace : a.place = .tagName opened) (hkind : t.kind ≠ .tagClose)
      (hname : t.tagName? = none) : Rejects options a t (.unknownTag t.describe t.offset)
  | invalidElement {elements : List Element} (hplace : a.place = .echo elements)
      (hkind : t.kind ≠ .tagClose) (helement : t.element? = none) :
      Rejects options a t (.invalidElement t.describe t.offset)
  | missingLoopName {opened : Nat} (hplace : a.place = .loopName opened)
      (hname : t.variableName? = none) :
      Rejects options a t (.missingLoopName t.describe t.offset)
  | tooFewBounds {opened : Nat} {name : Text} {bounds : List Number}
      (hplace : a.place = .loopBounds opened name bounds) (hkind : t.kind = .tagClose)
      (hlength : bounds.length < 2) : Rejects options a t (.tooFewBounds opened)
  | unclosedLoopTag {opened : Nat} {name : Text} {bounds : List Number}
      (hplace : a.place = .loopBounds opened name bounds) (hkind : t.kind ≠ .tagClose)
      (hlength : bounds.length = 3) : Rejects options a t (.unclosedLoopTag t.describe t.offset)
  | invalidBound {opened : Nat} {name : Text} {bounds : List Number}
      (hplace : a.place = .loopBounds opened name bounds) (hkind : t.kind ≠ .tagClose)
      (hlength : bounds.length ≠ 3) (hbound : t.bound? = none) :
      Rejects options a t (.invalidBound t.describe t.offset)
  | unmatchedEnd {opened : Nat} (hplace : a.place = .endClose opened) (hkind : t.kind = .tagClose)
      (hloops : a.loops = []) : Rejects options a t (.unmatchedEnd opened)
  | unclosedEndTag {opened : Nat} (hplace : a.place = .endClose opened)
      (hkind : t.kind ≠ .tagClose) : Rejects options a t (.unclosedEndTag t.describe t.offset)

variable {options : ParseOptions} {a final : Assembly} {t : Token} {events : List Event}
  {e : ParseError}

theorem takeBetweenTags_eq_error (hplace : a.place = .betweenTags)
    (h : a.takeBetweenTags options t = .done events (.error e)) :
    events = [] ∧ Rejects options a t e := by
  unfold takeBetweenTags at h
  split at h
  · rename_i hkind
    unfold finish at h
    split at h
    · rename_i l loops hloops hstrict
      cases h
      exact ⟨rfl, .unterminatedLoop hplace hkind hstrict hloops⟩
    · cases h
  · cases h
  · cases h
  · rename_i hend hmark htext
    cases h
    exact ⟨rfl, .unexpected hplace hend hmark htext⟩

theorem takeTagName_eq_error {opened : Nat} (hplace : a.place = .tagName opened)
    (h : a.takeTagName opened t = .done events (.error e)) :
    events = [] ∧ Rejects options a t e := by
  unfold takeTagName at h
  split at h
  · rename_i hkind
    cases h
    exact ⟨rfl, .emptyTag hplace hkind⟩
  · rename_i hkind
    split at h
    case h_4 hname =>
      cases h
      exact ⟨rfl, .unknownTag hplace hkind hname⟩
    all_goals cases h

theorem takeElement_eq_error {elements : List Element} (hplace : a.place = .echo elements)
    (h : a.takeElement elements t = .done events (.error e)) :
    events = [] ∧ Rejects options a t e := by
  unfold takeElement at h
  split at h
  · cases h
  · rename_i hkind
    split at h
    · cases h
    · rename_i helement
      cases h
      exact ⟨rfl, .invalidElement hplace hkind helement⟩

theorem takeLoopName_eq_error {opened : Nat} (hplace : a.place = .loopName opened)
    (h : a.takeLoopName opened t = .done events (.error e)) :
    events = [] ∧ Rejects options a t e := by
  unfold takeLoopName at h
  split at h
  · cases h
  · rename_i hname
    cases h
    exact ⟨rfl, .missingLoopName hplace hname⟩

theorem takeBound_eq_error {opened : Nat} {name : Text} {bounds : List Number}
    (hplace : a.place = .loopBounds opened name bounds)
    (h : a.takeBound opened name bounds t = .done events (.error e)) :
    events = [] ∧ Rejects options a t e := by
  unfold takeBound at h
  split at h
  · rename_i hkind
    unfold Assembly.openLoop at h
    split at h
    · cases h
    · rename_i hshort
      cases h
      have hlength : bounds.length < 2 := by
        match bounds with
        | [] => simp
        | [_] => simp
        | start :: stop :: rest => exact (hshort start stop rest rfl).elim
      exact ⟨rfl, .tooFewBounds hplace hkind hlength⟩
  · rename_i hkind
    split at h
    · rename_i hlength
      cases h
      exact ⟨rfl, .unclosedLoopTag hplace hkind hlength⟩
    · rename_i hlength
      split at h
      · cases h
      · rename_i hbound
        cases h
        exact ⟨rfl, .invalidBound hplace hkind hlength hbound⟩

theorem takeEndClose_eq_error {opened : Nat} (hplace : a.place = .endClose opened)
    (h : a.takeEndClose opened t = .done events (.error e)) :
    events = [] ∧ Rejects options a t e := by
  unfold takeEndClose at h
  split at h
  · rename_i hkind
    unfold Assembly.closeLoop at h
    split at h
    · rename_i hloops
      cases h
      exact ⟨rfl, .unmatchedEnd hplace hkind hloops⟩
    · cases h
  · rename_i hkind
    cases h
    exact ⟨rfl, .unclosedEndTag hplace hkind⟩

theorem step_of_rejects (h : Rejects options a t e) : a.step options t = .done [] (.error e) := by
  unfold step
  cases h with
  | unexpected hplace hend hmark htext =>
      simp only [hplace]
      unfold takeBetweenTags
      split
      · contradiction
      · rename_i content hkind hvalue
        exact (htext content hkind hvalue).elim
      · contradiction
      · rfl
  | unterminatedLoop hplace hkind hstrict hloops =>
      simp [hplace, takeBetweenTags, hkind, finish, hloops, hstrict, Progress.fail]
  | emptyTag hplace hkind => simp [hplace, takeTagName, hkind, Progress.fail]
  | unknownTag hplace hkind hname => simp [hplace, takeTagName, hkind, hname, Progress.fail]
  | invalidElement hplace hkind helement =>
      simp [hplace, takeElement, hkind, helement, Progress.fail]
  | missingLoopName hplace hname => simp [hplace, takeLoopName, hname, Progress.fail]
  | @tooFewBounds opened name bounds hplace hkind hlength =>
      simp only [hplace, takeBound, hkind, if_true]
      cases bounds with
      | nil => rfl
      | cons start rest =>
          cases rest with
          | nil => rfl
          | cons stop rest =>
              simp only [List.length_cons] at hlength
              omega
  | unclosedLoopTag hplace hkind hlength => simp [hplace, takeBound, hkind, hlength, Progress.fail]
  | invalidBound hplace hkind hlength hbound =>
      simp [hplace, takeBound, hkind, hlength, hbound, Progress.fail]
  | unmatchedEnd hplace hkind hloops =>
      simp [hplace, takeEndClose, hkind, Assembly.closeLoop, hloops, Progress.fail]
  | unclosedEndTag hplace hkind => simp [hplace, takeEndClose, hkind, Progress.fail]

theorem step_eq_done_error_iff :
    a.step options t = .done events (.error e) ↔ events = [] ∧ Rejects options a t e := by
  constructor
  · intro h
    unfold step at h
    split at h
    · exact takeBetweenTags_eq_error ‹_› h
    · exact takeTagName_eq_error ‹_› h
    · exact takeElement_eq_error ‹_› h
    · exact takeLoopName_eq_error ‹_› h
    · exact takeBound_eq_error ‹_› h
    · exact takeEndClose_eq_error ‹_› h
  · rintro ⟨rfl, h⟩
    exact step_of_rejects h

theorem Takes.kind_ne_endOfInput {next : Assembly} (h : Takes a t events next) :
    t.kind ≠ .endOfInput := by
  cases h with
  | text => simp
  | tag n hplace htag => exact htag.isInner.ne_endOfInput
  | element hplace helement => exact helement.isInner.ne_endOfInput
  | subject hplace hname hvalid => exact hname.isInner.ne_endOfInput
  | bound hplace hlength hbound => exact hbound.isInner.ne_endOfInput
  | mark hplace hkind => simp [hkind]
  | closeEcho hplace hkind => simp [hkind]
  | openLoop hplace hkind => simp [hkind]
  | closeLoop hplace hkind hloops => simp [hkind]

theorem Ends.not_takes {ending : List Event} {d : Document} (h : Ends options a t ending d)
    (next : Assembly) : ¬Takes a t events next :=
  fun hstep => hstep.kind_ne_endOfInput h.kind

theorem Rejects.not_takes (h : Rejects options a t e) (next : Assembly) :
    ¬Takes a t events next := by
  intro hstep
  have hrejects := step_of_rejects h
  rw [step_of_takes hstep] at hrejects
  contradiction

/-- The error with which a parse fails at an item of the token stream. -/
inductive Fails (options : ParseOptions) (a : Assembly) :
    Except LexError Token → ParseError → Prop
  | lex (e : LexError) : Fails options a (.error e) (.lex e)
  | rejects {t : Token} {e : ParseError} (h : Rejects options a t e) : Fails options a (.ok t) e

theorem run_of_steps {front : List Token} (h : Steps a front events final)
    (item : Except LexError Token) (rest : List (Except LexError Token)) (offset : Nat) :
    a.run options offset (front.map .ok ++ item :: rest) =
      (events ++ (final.run options offset (item :: rest)).1,
        (final.run options offset (item :: rest)).2) := by
  induction h generalizing offset with
  | refl => rfl
  | @cons a next final t front events later hstep hrest ih =>
      have hoffset : final.run options t.offset (item :: rest) =
          final.run options offset (item :: rest) := by
        cases item <;> rfl
      have hrun : a.run options offset (.ok t :: (front.map .ok ++ item :: rest)) =
          (.token t.kind t.offset :: events ++
              (next.run options t.offset (front.map .ok ++ item :: rest)).1,
            (next.run options t.offset (front.map .ok ++ item :: rest)).2) := by
        rw [run, step_eq_go_iff.mpr hstep]
      rw [List.map_cons, List.cons_append, hrun, ih t.offset, hoffset, List.append_assoc]

theorem run_of_fails {item : Except LexError Token} (h : Fails options a item e) (offset : Nat)
    (rest : List (Except LexError Token)) :
    (a.run options offset (item :: rest)).2 = .error e := by
  cases h with
  | lex => rfl
  | rejects h => rw [run, step_of_rejects h]

theorem exists_fails_of_run {offset : Nat} {items : List (Except LexError Token)}
    (hitems : ∃ item ∈ items, ∀ t, item = .ok t → t.kind = .endOfInput)
    (h : (a.run options offset items).2 = .error e) :
    ∃ front item rest final events, items = front.map .ok ++ item :: rest ∧
      Steps a front events final ∧ Fails options final item e := by
  induction items generalizing a offset with
  | nil => simp at hitems
  | cons item items ih =>
      cases item with
      | error lexical =>
          obtain rfl : .lex lexical = e := Except.error.inj h
          exact ⟨[], _, items, a, [], rfl, .refl a, .lex lexical⟩
      | ok t =>
          rw [run] at h
          split at h
          · rename_i ending result hstep
            obtain rfl : result = .error e := h
            obtain ⟨-, hrejects⟩ := step_eq_done_error_iff.mp hstep
            exact ⟨[], _, items, a, [], rfl, .refl a, .rejects hrejects⟩
          · rename_i middle next hstep
            have htakes := step_eq_go_iff.mp hstep
            have hlater : ∃ item ∈ items, ∀ t, item = .ok t → t.kind = .endOfInput := by
              obtain ⟨item, hmem, hend⟩ := hitems
              obtain rfl | hmem := List.mem_cons.mp hmem
              · exact (htakes.kind_ne_endOfInput (hend t rfl)).elim
              · exact ⟨item, hmem, hend⟩
            obtain ⟨front, item, rest, final, events, rfl, hsteps, hfails⟩ := ih hlater h
            exact ⟨t :: front, item, rest, final, _, rfl, .cons htakes hsteps, hfails⟩

end Assembly

theorem exists_last_itemsFrom (m : Mode) (offset : Nat) (source : Text) :
    ∃ item ∈ itemsFrom m offset source, ∀ t, item = .ok t → t.kind = .endOfInput := by
  induction m, offset, source using itemsFrom_induction with
  | @error m offset source e h => exact ⟨.error e, by simp [itemsFrom_of_error h], nofun⟩
  | @endOfInput m offset source t h hkind =>
      refine ⟨.ok t, by simp [itemsFrom_of_endOfInput h hkind], ?_⟩
      rintro u ⟨⟩
      exact hkind
  | token h hkind ih =>
      obtain ⟨item, hmem, hend⟩ := ih
      exact ⟨item, by simp [itemsFrom_of_token h hkind, hmem], hend⟩

namespace Document

theorem parse_eq_error_iff {options : ParseOptions} {source : Text} {e : ParseError} :
    parse options source = .error e ↔
      ∃ front item rest final events,
        itemsFrom .outsideTag 0 source = front.map .ok ++ item :: rest ∧
        Assembly.Steps .empty front events final ∧ Assembly.Fails options final item e := by
  have hparse : parse options source =
      (Assembly.empty.run options 0 (itemsFrom .outsideTag 0 source)).2 := rfl
  constructor
  · intro h
    exact Assembly.exists_fails_of_run (exists_last_itemsFrom _ _ _) (hparse.symm.trans h)
  · rintro ⟨front, item, rest, final, events, hitems, hsteps, hfails⟩
    rw [hparse, hitems, Assembly.run_of_steps hsteps, Assembly.run_of_fails hfails]

/-- The tokens of a source lead to an assembly, and the source ends between tags. -/
def Reaches (source : Text) (a : Assembly) : Prop :=
  ∃ front last events, itemsFrom .outsideTag 0 source = front.map .ok ++ [.ok last] ∧
    last.kind = .endOfInput ∧ Assembly.Steps .empty front events a ∧ a.place = .betweenTags

theorem parse_eq_ok_iff_reaches {options : ParseOptions} {source : Text} {d : Document} :
    parse options source = .ok d ↔
      ∃ a, Reaches source a ∧ (options.allowUnclosed = true ∨ a.loops = []) ∧
        d = ⟨Assembly.closeAll a.root [] a.loops⟩ := by
  simp only [parse_eq_ok_iff, tokenize_eq, collect_eq_ok_iff, List.map_append, List.map_singleton]
  constructor
  · rintro ⟨front, last, a, events, _, hitems, hsteps, hends⟩
    exact ⟨a, ⟨front, last, events, hitems, hends.kind, hsteps, hends.place⟩, hends.loops,
      hends.document⟩
  · rintro ⟨a, ⟨front, last, events, hitems, hlast, hsteps, hplace⟩, hloops, hdocument⟩
    exact ⟨front, last, a, events, _, hitems, hsteps, hplace, hlast, hloops, rfl, hdocument⟩

theorem parse_eq_unterminatedLoop_iff {source : Text} {name : Text} {opened : Nat} :
    parse {} source = .error (.unterminatedLoop name opened) ↔
      ∃ a l loops, Reaches source a ∧ a.loops = l :: loops ∧ name = l.header.name ∧
        opened = l.opened := by
  rw [parse_eq_error_iff]
  constructor
  · rintro ⟨front, item, rest, a, events, hitems, hsteps, hfails⟩
    cases hfails with
    | rejects hrejects =>
        cases hrejects with
        | @unterminatedLoop l loops hplace hkind hstrict hloops =>
            obtain rfl := eq_nil_of_itemsFrom hkind hitems
            exact ⟨a, l, loops, ⟨front, _, events, hitems, hkind, hsteps, hplace⟩, hloops, rfl,
              rfl⟩
  · rintro ⟨a, l, loops, ⟨front, last, events, hitems, hlast, hsteps, hplace⟩, hloops, rfl, rfl⟩
    exact ⟨front, _, [], a, events, hitems, hsteps,
      .rejects (.unterminatedLoop hplace hlast rfl hloops)⟩

end Document

end TagMarkup
