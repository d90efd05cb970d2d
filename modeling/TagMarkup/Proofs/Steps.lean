import TagMarkup.Document.Parse
import TagMarkup.Proofs.Linearisation

namespace TagMarkup

def TagName.place (opened : Nat) : TagName → Place
  | echo => .echo []
  | loop => .loopName opened
  | endLoop => .endClose opened

namespace Assembly

def enter (a : Assembly) (opened : Nat) (header : LoopHeader) : Assembly :=
  { a with loops := ⟨header, opened, []⟩ :: a.loops, place := .betweenTags }

def leave (a : Assembly) (l : OpenLoop) (loops : List OpenLoop) : Assembly :=
  ({ a with loops := loops, place := .betweenTags } : Assembly).push l.close

/-- What a token can do to an assembly that goes on after it. -/
inductive Takes (a : Assembly) : Token → List Event → Assembly → Prop
  | text (content : Text) (offset : Nat) (hplace : a.place = .betweenTags) :
      Takes a ⟨.text, some (.text content), offset⟩ [] (a.push (.text content))
  | mark {t : Token} (hplace : a.place = .betweenTags) (hkind : t.kind = .tagOpen) :
      Takes a t [] (a.goTo (.tagName t.offset))
  | tag {t : Token} {opened : Nat} (n : TagName) (hplace : a.place = .tagName opened)
      (hname : t.IsTagName n.upper) : Takes a t [] (a.goTo (n.place opened))
  | element {t : Token} {elements : List Element} {element : Element}
      (hplace : a.place = .echo elements) (helement : t.Denotes element) :
      Takes a t [] (a.goTo (.echo (element :: elements)))
  | closeEcho {t : Token} {elements : List Element} (hplace : a.place = .echo elements)
      (hkind : t.kind = .tagClose) :
      Takes a t [] ((a.goTo .betweenTags).push (.echo elements.reverse))
  | subject {t : Token} {opened : Nat} {name : Text} (hplace : a.place = .loopName opened)
      (hname : t.IsName name) (hvalid : isValidName name = true) :
      Takes a t [] (a.goTo (.loopBounds opened name []))
  | bound {t : Token} {opened : Nat} {name : Text} {bounds : List Number} {bound : Number}
      (hplace : a.place = .loopBounds opened name bounds) (hlength : bounds.length ≠ 3)
      (hbound : t.Bounds bound) :
      Takes a t [] (a.goTo (.loopBounds opened name (bounds ++ [bound])))
  | openLoop {t : Token} {opened : Nat} {name : Text} {start stop : Number} {rest : List Number}
      (hplace : a.place = .loopBounds opened name (start :: stop :: rest))
      (hkind : t.kind = .tagClose) :
      Takes a t [.openLoop name (a.loops.length + 1)]
        (a.enter opened ⟨name, start, stop, rest.head?⟩)
  | closeLoop {t : Token} {opened : Nat} {l : OpenLoop} {loops : List OpenLoop}
      (hplace : a.place = .endClose opened) (hkind : t.kind = .tagClose)
      (hloops : a.loops = l :: loops) :
      Takes a t [.closeLoop l.header.name loops.length] (a.leave l loops)

variable {options : ParseOptions} {a next final : Assembly} {t : Token} {events : List Event}

theorem takeBetweenTags_eq_go (hplace : a.place = .betweenTags)
    (h : a.takeBetweenTags options t = .go events next) : Takes a t events next := by
  obtain ⟨kind, value, offset⟩ := t
  unfold takeBetweenTags at h
  split at h
  · unfold finish at h
    split at h <;> contradiction
  · rename_i content hkind hvalue
    dsimp only at hkind hvalue
    subst hkind hvalue
    cases h
    exact .text content offset hplace
  · rename_i hkind
    cases h
    exact .mark hplace hkind
  · contradiction

theorem takeTagName_eq_go {opened : Nat} (hplace : a.place = .tagName opened)
    (h : a.takeTagName opened t = .go events next) : Takes a t events next := by
  unfold takeTagName at h
  split at h
  · contradiction
  split at h
  case h_4 => contradiction
  all_goals
    rename_i hname
    cases h
    exact .tag _ hplace (Token.tagName?_eq_some_iff.mp hname)

theorem takeElement_eq_go {elements : List Element} (hplace : a.place = .echo elements)
    (h : a.takeElement elements t = .go events next) : Takes a t events next := by
  unfold takeElement at h
  split at h
  · rename_i hkind
    cases h
    exact .closeEcho hplace hkind
  split at h
  · rename_i element helement
    cases h
    exact .element hplace (Token.element?_eq_some_iff.mp helement)
  · contradiction

theorem takeLoopName_eq_go {opened : Nat} (hplace : a.place = .loopName opened)
    (h : a.takeLoopName opened t = .go events next) : Takes a t events next := by
  unfold takeLoopName at h
  split at h
  · rename_i name hname
    cases h
    obtain ⟨hname, hvalid⟩ := Token.variableName?_eq_some_iff.mp hname
    exact .subject hplace hname hvalid
  · contradiction

theorem takeBound_eq_go {opened : Nat} {name : Text} {bounds : List Number}
    (hplace : a.place = .loopBounds opened name bounds)
    (h : a.takeBound opened name bounds t = .go events next) : Takes a t events next := by
  unfold takeBound at h
  split at h
  · rename_i hkind
    unfold Assembly.openLoop at h
    split at h
    · cases h
      exact .openLoop hplace hkind
    · contradiction
  split at h
  · contradiction
  rename_i hlength
  split at h
  · rename_i bound hbound
    cases h
    exact .bound hplace hlength (Token.bound?_eq_some_iff.mp hbound)
  · contradiction

theorem takeEndClose_eq_go {opened : Nat} (hplace : a.place = .endClose opened)
    (h : a.takeEndClose opened t = .go events next) : Takes a t events next := by
  unfold takeEndClose at h
  split at h
  · rename_i hkind
    unfold Assembly.closeLoop at h
    split at h
    · contradiction
    · rename_i l loops hloops
      cases h
      exact .closeLoop hplace hkind hloops
  · contradiction

theorem step_of_takes (h : Takes a t events next) : a.step options t = .go events next := by
  unfold step
  cases h with
  | text content offset hplace => simp [hplace, takeBetweenTags, Progress.goOn]
  | mark hplace hkind => simp [hplace, takeBetweenTags, hkind, Progress.goOn]
  | tag n hplace htag =>
      simp only [hplace, takeTagName, if_neg htag.isInner.ne_tagClose,
        Token.tagName?_eq_some_iff.mpr htag]
      cases n <;> rfl
  | element hplace helement =>
      simp [hplace, takeElement, helement.isInner.ne_tagClose,
        Token.element?_eq_some_iff.mpr helement, Progress.goOn]
  | closeEcho hplace hkind => simp [hplace, takeElement, hkind, Progress.goOn]
  | subject hplace ht hvalid =>
      simp [hplace, takeLoopName, Token.variableName?_eq_some_iff.mpr ⟨ht, hvalid⟩, Progress.goOn]
  | bound hplace hlength hbound =>
      simp [hplace, takeBound, hbound.isInner.ne_tagClose, hlength,
        Token.bound?_eq_some_iff.mpr hbound, Progress.goOn]
  | openLoop hplace hkind => simp [hplace, takeBound, hkind, Assembly.openLoop, enter]
  | closeLoop hplace hkind hloops =>
      simp [hplace, takeEndClose, hkind, Assembly.closeLoop, hloops, leave]

theorem step_eq_go_iff : a.step options t = .go events next ↔ Takes a t events next := by
  constructor
  · intro h
    unfold step at h
    split at h
    · exact takeBetweenTags_eq_go ‹_› h
    · exact takeTagName_eq_go ‹_› h
    · exact takeElement_eq_go ‹_› h
    · exact takeLoopName_eq_go ‹_› h
    · exact takeBound_eq_go ‹_› h
    · exact takeEndClose_eq_go ‹_› h
  · exact step_of_takes

/-- How a parse ends well: at the end of the input between tags, with no loop open unless the
options allow it. -/
structure Ends (options : ParseOptions) (a : Assembly) (t : Token) (events : List Event)
    (d : Document) : Prop where
  place : a.place = .betweenTags
  kind : t.kind = .endOfInput
  loops : options.allowUnclosed = true ∨ a.loops = []
  events : events = a.loops.map (fun l => .closeImplicitly l.header.name) ++ [.parsed d.nodeCount]
  document : d = ⟨closeAll a.root [] a.loops⟩

theorem finish_eq_done_ok_iff {d : Document} :
    a.finish options = .done events (.ok d) ↔
      (options.allowUnclosed = true ∨ a.loops = []) ∧
      events = a.loops.map (fun l => .closeImplicitly l.header.name) ++ [.parsed d.nodeCount] ∧
      d = ⟨closeAll a.root [] a.loops⟩ := by
  unfold finish
  split
  · rename_i l loops hloops hstrict
    simp [Progress.fail, hloops, hstrict]
  · rename_i hopen
    have hallowed : options.allowUnclosed = true ∨ a.loops = [] := by
      cases hloops : a.loops with
      | nil => exact .inr rfl
      | cons l loops =>
          refine .inl (by_contra fun hstrict => ?_)
          exact hopen l loops hloops (Bool.not_eq_true _ ▸ hstrict)
    constructor
    · intro h
      cases h
      exact ⟨hallowed, rfl, rfl⟩
    · rintro ⟨-, rfl, rfl⟩
      rfl

theorem step_eq_done_ok_iff {d : Document} :
    a.step options t = .done events (.ok d) ↔ Ends options a t events d := by
  constructor
  · intro h
    unfold step at h
    split at h
    · rename_i hplace
      unfold takeBetweenTags at h
      split at h
      · rename_i hkind
        obtain ⟨hloops, hevents, hdocument⟩ := finish_eq_done_ok_iff.mp h
        exact ⟨hplace, hkind, hloops, hevents, hdocument⟩
      all_goals cases h
    · unfold takeTagName at h
      split at h
      · cases h
      split at h <;> cases h
    · unfold takeElement at h
      split at h
      · cases h
      split at h <;> cases h
    · unfold takeLoopName at h
      split at h <;> cases h
    · unfold takeBound at h
      split at h
      · unfold Assembly.openLoop at h
        split at h <;> cases h
      split at h
      · cases h
      split at h <;> cases h
    · unfold takeEndClose at h
      split at h
      · unfold Assembly.closeLoop at h
        split at h <;> cases h
      · cases h
  · rintro ⟨hplace, hkind, hloops, hevents, hdocument⟩
    have hfinish := finish_eq_done_ok_iff.mpr ⟨hloops, hevents, hdocument⟩
    simp [step, hplace, takeBetweenTags, hkind, hfinish]

/-- Tokens that take an assembly to another one, with the events on the way. -/
inductive Steps : Assembly → List Token → List Event → Assembly → Prop
  | refl (a : Assembly) : Steps a [] [] a
  | cons {a next final : Assembly} {t : Token} {tokens : List Token} {events later : List Event}
      (hstep : Takes a t events next) (hrest : Steps next tokens later final) :
      Steps a (t :: tokens) (.token t.kind t.offset :: events ++ later) final

theorem Steps.one (h : Takes a t events next) :
    Steps a [t] (.token t.kind t.offset :: events) next := by
  simpa using Steps.cons h (.refl next)

theorem Steps.append {tokens rest : List Token} {later : List Event}
    (h : Steps a tokens events next) (hrest : Steps next rest later final) :
    Steps a (tokens ++ rest) (events ++ later) final := by
  induction h with
  | refl => exact hrest
  | cons hstep _ ih =>
      rw [List.cons_append, List.append_assoc]
      exact .cons hstep (ih hrest)

theorem Steps.exists_of_append {front back : List Token} (h : Steps a (front ++ back) events final) :
    ∃ middle earlier later, Steps a front earlier middle ∧ Steps middle back later final := by
  induction front generalizing a events with
  | nil => exact ⟨a, [], events, .refl a, h⟩
  | cons t front ih =>
      cases h with
      | cons hstep hrest =>
          obtain ⟨middle, earlier, later, hfront, hback⟩ := ih hrest
          exact ⟨middle, _, later, .cons hstep hfront, hback⟩

theorem run_eq_ok_iff {offset : Nat} {items : List (Except LexError Token)} {d : Document} :
    a.run options offset items = (events, .ok d) ↔
      ∃ front last rest final earlier ending,
        items = front.map .ok ++ .ok last :: rest ∧ Steps a front earlier final ∧
        Ends options final last ending d ∧
        events = earlier ++ .token last.kind last.offset :: ending := by
  induction items generalizing a offset events with
  | nil => simp [run]
  | cons item items ih =>
      cases item with
      | error e =>
          constructor
          · intro h
            simp [run] at h
          · rintro ⟨front, last, rest, final, earlier, ending, hitems, -⟩
            cases front <;> simp at hitems
      | ok t =>
          constructor
          · intro h
            unfold run at h
            split at h
            · rename_i ending result hstep
              obtain ⟨rfl, rfl⟩ := Prod.mk.inj h
              exact ⟨[], t, items, a, [], ending, rfl, .refl a, step_eq_done_ok_iff.mp hstep, rfl⟩
            · rename_i middle next hstep
              cases hrun : next.run options t.offset items with
              | mk later result =>
                  rw [hrun] at h
                  obtain ⟨rfl, rfl⟩ := Prod.mk.inj h
                  obtain ⟨front, last, rest, final, earlier, ending, hitems, hsteps, hends, rfl⟩ :=
                    ih.mp hrun
                  refine ⟨t :: front, last, rest, final, _, ending, congrArg _ hitems,
                    .cons (step_eq_go_iff.mp hstep) hsteps, hends, ?_⟩
                  simp
          · rintro ⟨front, last, rest, final, earlier, ending, hitems, hsteps, hends, rfl⟩
            cases hsteps with
            | refl =>
                obtain ⟨hhead, -⟩ := List.cons_eq_cons.mp hitems
                obtain rfl := Except.ok.inj hhead
                simp [run, step_eq_done_ok_iff.mpr hends]
            | @cons _ next _ u front _ later hstep hrest =>
                obtain ⟨hhead, htail⟩ := List.cons_eq_cons.mp hitems
                obtain rfl := Except.ok.inj hhead
                have hrun : next.run options t.offset items = _ :=
                  ih.mpr ⟨front, last, rest, final, later, ending, htail, hrest, hends, rfl⟩
                simp [run, step_eq_go_iff.mpr hstep, hrun]

end Assembly

end TagMarkup
