import Mathlib
import TagMarkup.Proofs.LoopTags
import TagMarkup.Proofs.Rejection

namespace TagMarkup

/-- A tag of one of the three kinds, as a whole. -/
inductive WellFormedTag : List Token → Prop
  | echo {elements : List Element} {tag : List Token} (h : (Node.echo elements).Linearises tag) :
      WellFormedTag tag
  | opening {header : LoopHeader} {tag : List Token} (h : header.Opens tag) : WellFormedTag tag
  | ending {tag : List Token} (h : EndsLoop tag) : WellFormedTag tag

/-- With every mark that opens a tag a well-formed tag begins. -/
def TagsWellFormed (tokens : List Token) : Prop :=
  ∀ mark rest, mark :: rest <:+ tokens → mark.kind = .tagOpen →
    ∃ tag, WellFormedTag tag ∧ tag <+: mark :: rest

theorem TagsWellFormed.of_suffix {tokens rest : List Token} (h : TagsWellFormed tokens)
    (hrest : rest <:+ tokens) : TagsWellFormed rest :=
  fun mark later hsuffix => h mark later (hsuffix.trans hrest)

theorem WellFormedTag.exists_close {tag : List Token} (h : WellFormedTag tag) :
    ∃ front close, tag = front ++ [close] ∧ close.kind = .tagClose := by
  cases h with
  | echo h =>
      cases h with
      | @echo _ mark name close tokens hmark htag helements hclose =>
          exact ⟨mark :: name :: tokens, close, rfl, hclose⟩
  | opening h =>
      cases h with
      | @intro mark name subject close bounds hmark htag hsubject hname hbounds hclose =>
          exact ⟨mark :: name :: subject :: bounds, close, rfl, hclose⟩
  | ending h =>
      cases h with
      | @intro mark name close hmark htag hclose => exact ⟨[mark, name], close, rfl, hclose⟩

/-- Texts and well-formed tags one after the other. -/
inductive Composed : List Token → Prop
  | nil : Composed []
  | text (content : Text) (offset : Nat) {rest : List Token} (hrest : Composed rest) :
      Composed (⟨.text, some (.text content), offset⟩ :: rest)
  | tag {tag rest : List Token} (htag : WellFormedTag tag) (hrest : Composed rest) :
      Composed (tag ++ rest)

theorem exists_itemsFrom_after {front : List Token} {t : Token} (hkind : t.kind ≠ .endOfInput)
    {m : Mode} {offset : Nat} {source : Text} {rest : List (Except LexError Token)}
    (h : itemsFrom m offset source = front.map .ok ++ .ok t :: rest) :
    ∃ m' offset' source', itemsFrom (Mode.after m' t.kind) offset' source' = rest := by
  induction front generalizing m offset source with
  | nil =>
      obtain ⟨-, hrest⟩ := itemsFrom_eq_cons h
      rw [if_neg hkind] at hrest
      exact ⟨_, _, _, hrest.symm⟩
  | cons u front ih =>
      obtain ⟨-, hrest⟩ := itemsFrom_eq_cons h
      split at hrest
      · simp at hrest
      · exact ih hrest.symm

/-- Outside tags there are texts, marks that open a tag, and the end of the input. -/
theorem exists_composed {offset : Nat} {source : Text} {tokens : List Token}
    (h : itemsFrom .outsideTag offset source = tokens.map .ok) (htags : TagsWellFormed tokens) :
    ∃ front last, tokens = front ++ [last] ∧ last.kind = .endOfInput ∧ Composed front := by
  induction hlength : tokens.length using Nat.strong_induction_on
    generalizing offset source tokens with
  | _ length ih =>
      cases tokens with
      | nil => exact absurd h (itemsFrom_ne_nil _ _ _)
      | cons t tokens =>
          obtain ⟨hread, hitems⟩ := itemsFrom_eq_cons h
          obtain ⟨gap, lexeme, -, -, -, -, -, hadmits, hspelling⟩ :=
            Lexeme.exists_spelling_of_read hread
          obtain hkind | hkind | hkind := hadmits
          · rw [if_neg (by simp [hkind]), hkind] at hitems
            obtain ⟨front, last, rfl, hlast, hfront⟩ :=
              ih tokens.length (by simp [← hlength]) hitems.symm
                (htags.of_suffix (List.suffix_cons t tokens)) rfl
            obtain ⟨kind, value, offset⟩ := t
            obtain rfl : kind = .text := hkind
            cases hspelling with
            | text => exact ⟨_, last, rfl, hlast, .text _ _ hfront⟩
          · obtain ⟨tag, htag, rest, hsplit⟩ := htags t tokens List.suffix_rfl hkind
            obtain ⟨inner, close, rfl, hclose⟩ := htag.exists_close
            rw [← hsplit] at h hlength htags ⊢
            rw [List.map_append, List.map_append, List.append_assoc] at h
            obtain ⟨m, offset', source', hrest⟩ := exists_itemsFrom_after (by simp [hclose]) h
            have hshorter : rest.length < length := by
              simp only [List.length_append, List.length_singleton] at hlength
              omega
            rw [hclose] at hrest
            obtain ⟨front, last, rfl, hlast, hfront⟩ :=
              ih rest.length hshorter hrest (htags.of_suffix (List.suffix_append _ _)) rfl
            exact ⟨_, last, (List.append_assoc _ _ _).symm, hlast, .tag htag hfront⟩
          · rw [if_pos hkind] at hitems
            obtain rfl := List.map_eq_nil_iff.mp hitems
            exact ⟨[], t, rfl, hkind, .nil⟩

namespace Assembly

/-- How far an assembly comes with texts and well-formed tags: to the end of them, or to a tag that
ends a loop where none is open. -/
inductive Runs (a : Assembly) : List Token → Prop
  | through {tokens : List Token} {events : List Event} {final : Assembly}
      (hsteps : Steps a tokens events final) (hplace : final.place = .betweenTags) : Runs a tokens
  | stuck {front tag rest : List Token} {events : List Event} {final : Assembly}
      (hsteps : Steps a front events final) (hplace : final.place = .betweenTags)
      (hloops : final.loops = []) (hending : EndsLoop tag) : Runs a (front ++ (tag ++ rest))

variable {a final : Assembly} {events : List Event} {front tag tokens : List Token}

theorem Runs.after (h : Runs final tokens) (hsteps : Steps a front events final) :
    Runs a (front ++ tokens) := by
  cases h with
  | through hrest hplace => exact .through (hsteps.append hrest) hplace
  | stuck hrest hplace hloops hending =>
      rw [← List.append_assoc]
      exact .stuck (hsteps.append hrest) hplace hloops hending

theorem runs_of_composed (h : Composed tokens) (hplace : a.place = .betweenTags) :
    Runs a tokens := by
  induction h generalizing a with
  | nil => exact .through (.refl a) hplace
  | text content offset hrest ih =>
      have hsteps := Steps.one (.text content offset hplace)
      exact (ih ((push_place a _).trans hplace)).after hsteps
  | @tag tag rest htag hrest ih =>
      cases htag with
      | @echo elements _ h =>
          obtain ⟨events, hsteps⟩ := steps_of_linearises hplace _ h
          exact (ih ((push_place a _).trans hplace)).after hsteps
      | opening h =>
          obtain ⟨root, loops, place⟩ := a
          obtain rfl : place = .betweenTags := hplace
          obtain ⟨events, opened, hsteps⟩ := steps_of_opens h
          exact (ih rfl).after hsteps
      | ending h =>
          cases hloops : a.loops with
          | nil => exact .stuck (.refl a) hplace hloops h
          | cons l loops =>
              obtain ⟨events, hsteps⟩ := steps_leave hplace hloops h
              exact (ih (push_place _ _)).after hsteps

/-- A tag that ends a loop where none is open is rejected at its close, with the offset that it has
as a loop tag. -/
theorem exists_rejects_of_endsLoop (h : EndsLoop tag) (hplace : a.place = .betweenTags)
    (hloops : a.loops = []) :
    ∃ front close events final opened, tag = front ++ [close] ∧ Steps a front events final ∧
      (∀ options, Rejects options final close (.unmatchedEnd opened)) ∧
      ∀ rest, loopTags (tag ++ rest) = .ending opened :: loopTags rest := by
  cases h with
  | @intro mark name close hmark htag hclose =>
      refine ⟨[mark, name], close, _, _, mark.offset, rfl,
        .cons (.mark hplace hmark) (.one (.tag .endLoop rfl htag)),
        fun options => .unmatchedEnd rfl hclose hloops, fun rest => ?_⟩
      have hopen : close.kind ≠ .tagOpen := by simp [hclose]
      have hname : name.tagName? = some .endLoop := Token.tagName?_eq_some_iff.mpr htag
      simp only [List.cons_append, List.nil_append, loopTags, if_pos hmark, LoopTag.after?, hname,
        if_neg htag.isInner.ne_tagOpen, if_neg hopen, Option.toList_some]

end Assembly

namespace Document

open Assembly

variable {source : Text} {a : Assembly} {tokens : List Token}

/-- The open loops that a source comes to decide how its parse ends. -/
theorem Reaches.parse_of_loops (h : Reaches source a) :
    (∀ name opened outer, a.loops.map OpenLoop.tag = (name, opened) :: outer →
      parse {} source = .error (.unterminatedLoop name opened) ∧
      ∃ d, parse ⟨true⟩ source = .ok d) ∧
    (a.loops.map OpenLoop.tag = [] → ∀ options, ∃ d, parse options source = .ok d) := by
  constructor
  · intro name opened outer hopen
    obtain ⟨l, loops, hloops, htag, -⟩ := List.map_eq_cons_iff.mp hopen
    obtain ⟨rfl, rfl⟩ := Prod.mk.inj htag
    exact ⟨parse_eq_unterminatedLoop_iff.mpr ⟨a, l, loops, h, hloops, rfl, rfl⟩, _,
      parse_eq_ok_iff_reaches.mpr ⟨a, h, .inl rfl, rfl⟩⟩
  · intro hclosed options
    have hloops := List.map_eq_nil_iff.mp hclosed
    exact ⟨_, parse_eq_ok_iff_reaches.mpr ⟨a, h, .inr hloops, rfl⟩⟩

theorem exists_unmatched {front tag rest : List Token} {events : List Event}
    (hitems : itemsFrom .outsideTag 0 source = (front ++ (tag ++ rest)).map .ok)
    (hsteps : Steps .empty front events a) (hplace : a.place = .betweenTags)
    (hloops : a.loops = []) (hending : EndsLoop tag) :
    ∃ before opened after, loopTags (front ++ (tag ++ rest)) = before ++ .ending opened :: after ∧
      Matched [] before ∧ unclosedAfter [] before = [] ∧
      ∀ options, parse options source = .error (.unmatchedEnd opened) := by
  obtain ⟨inner, close, later, final, opened, rfl, hinner, hrejects, hnext⟩ :=
    exists_rejects_of_endsLoop hending hplace hloops
  obtain ⟨before, hall, hmatched, hopen⟩ :=
    hsteps.loopTags_append hplace (inner ++ [close] ++ rest)
  rw [hnext] at hall
  rw [hloops] at hopen
  refine ⟨before, opened, _, hall, hmatched, hopen, fun options => ?_⟩
  refine parse_eq_error_iff.mpr ⟨front ++ inner, .ok close, rest.map .ok, final, _, ?_,
    hsteps.append hinner, .rejects (hrejects options)⟩
  rw [hitems]
  simp

/-- Of a source with well-formed tags only, the loop tags decide the parse. If not all of them match,
the first ending without an open loop is blamed, and otherwise the innermost loop without an end. -/
theorem parse_of_tagsWellFormed (htokens : tokenize source = .ok tokens)
    (htags : TagsWellFormed tokens) :
    (¬Matched [] (loopTags tokens) →
      ∃ before opened after, loopTags tokens = before ++ .ending opened :: after ∧
        Matched [] before ∧ unclosedAfter [] before = [] ∧
        ∀ options, parse options source = .error (.unmatchedEnd opened)) ∧
    (Matched [] (loopTags tokens) →
      (∀ name opened outer, unclosed tokens = (name, opened) :: outer →
        parse {} source = .error (.unterminatedLoop name opened) ∧
        ∃ d, parse ⟨true⟩ source = .ok d) ∧
      (unclosed tokens = [] → ∀ options, ∃ d, parse options source = .ok d)) := by
  rw [tokenize_eq, collect_eq_ok_iff] at htokens
  obtain ⟨front, last, rfl, hlast, hfront⟩ := exists_composed htokens htags
  have hruns : Runs .empty front := runs_of_composed hfront rfl
  cases hruns with
  | @through _ events final hsteps hplace =>
      have hreaches : Reaches source final :=
        ⟨front, last, events, by simpa using htokens, hlast, hsteps, hplace⟩
      obtain ⟨tags, hall, hmatched, -⟩ := hsteps.loopTags_append hplace [last]
      rw [loopTags_of_endOfInput hlast, List.append_nil] at hall
      rw [hall, hsteps.unclosed_eq hplace hlast]
      exact ⟨fun hunmatched => absurd hmatched hunmatched, fun _ => hreaches.parse_of_loops⟩
  | stuck hsteps hplace hloops hending =>
      rw [List.append_assoc, List.append_assoc] at htokens ⊢
      have hunmatched := exists_unmatched htokens hsteps hplace hloops hending
      refine ⟨fun _ => hunmatched, fun hmatched => ?_⟩
      obtain ⟨before, opened, after, hall, -, hopen, -⟩ := hunmatched
      exact absurd hopen (matched_iff.mp hmatched before opened after hall)

/-- A loop that is opened later does not match an ending before it. -/
theorem parse_of_end_before_loop :
    ∃ tokens, tokenize "{$END$}{$FOR i 1 2$}".toList = .ok tokens ∧ TagsWellFormed tokens ∧
      loopTags tokens = [.ending 0, .opening ['i'] 7] ∧
      ∀ options, parse options "{$END$}{$FOR i 1 2$}".toList = .error (.unmatchedEnd 0) := by
  have hending : EndsLoop [⟨.tagOpen, none, 0⟩, ⟨.name, some (.text ['E', 'N', 'D']), 2⟩,
      ⟨.tagClose, none, 5⟩] :=
    .intro rfl ⟨['E', 'N', 'D'], .intro _ 2, by decide⟩ rfl
  have hbounds : List.Forall₂ Token.Bounds
      [⟨.integer, some (.integer 1), 15⟩, ⟨.integer, some (.integer 2), 17⟩]
      (LoopHeader.bounds ⟨['i'], .integer 1, .integer 2, none⟩) :=
    .cons (.integer 1 15) (.cons (.integer 2 17) .nil)
  have hopening : LoopHeader.Opens ⟨['i'], .integer 1, .integer 2, none⟩ _ :=
    @LoopHeader.Opens.intro _ ⟨.tagOpen, none, 7⟩ _ _ ⟨.tagClose, none, 18⟩ _ rfl
      ⟨['F', 'O', 'R'], .intro _ 9, by decide⟩ (.intro _ 13) (by decide) hbounds rfl
  obtain ⟨tokens, htokens, htags, hloops⟩ :
      ∃ tokens, tokenize "{$END$}{$FOR i 1 2$}".toList = .ok tokens ∧ TagsWellFormed tokens ∧
        loopTags tokens = [.ending 0, .opening ['i'] 7] := by
    refine ⟨[⟨.tagOpen, none, 0⟩, ⟨.name, some (.text ['E', 'N', 'D']), 2⟩, ⟨.tagClose, none, 5⟩,
      ⟨.tagOpen, none, 7⟩, ⟨.name, some (.text ['F', 'O', 'R']), 9⟩,
      ⟨.name, some (.text ['i']), 13⟩, ⟨.integer, some (.integer 1), 15⟩,
      ⟨.integer, some (.integer 2), 17⟩, ⟨.tagClose, none, 18⟩, ⟨.endOfInput, none, 20⟩],
      by cbv, ?_, by cbv⟩
    intro mark rest hsuffix hkind
    rw [← List.mem_tails] at hsuffix
    simp only [List.tails, List.mem_cons, List.cons.injEq, List.not_mem_nil, or_false,
      reduceCtorEq] at hsuffix
    rcases hsuffix with h | h | h | h | h | h | h | h | h | h
    all_goals obtain ⟨rfl, rfl⟩ := h
    all_goals first | contradiction | skip
    · exact ⟨_, .ending hending, _, rfl⟩
    · exact ⟨_, .opening hopening, _, rfl⟩
  obtain ⟨before, opened, after, hall, hmatched, -, herror⟩ :=
    (parse_of_tagsWellFormed htokens htags).1 (by rw [hloops]; exact fun h => h.1 rfl)
  refine ⟨tokens, htokens, htags, hloops, ?_⟩
  rw [hloops] at hall
  cases before with
  | nil =>
      obtain ⟨htag, -⟩ := List.cons_eq_cons.mp hall
      obtain rfl := LoopTag.ending.inj htag
      exact herror
  | cons tag before =>
      obtain ⟨rfl, -⟩ := List.cons_eq_cons.mp hall
      exact absurd rfl hmatched.1

end Document

end TagMarkup
