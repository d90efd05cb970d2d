import Mathlib
import TagMarkup.Proofs.Pulling

namespace TagMarkup

/-- Tokens that end with a tag, with the offset of its mark. -/
inductive EndsInTag : List Token → Nat → Prop
  | intro {before inner : List Token} {mark close : Token} (hmark : mark.kind = .tagOpen)
      (hinner : ∀ t ∈ inner, t.IsInner) (hclose : close.kind = .tagClose) :
      EndsInTag (before ++ mark :: (inner ++ [close])) mark.offset

/-- Tokens with a tag among them that opens a loop, with the offset of its mark. -/
inductive OpensLoop : List Token → LoopHeader → Nat → Prop
  | intro {before tag after : List Token} {mark : Token} {header : LoopHeader}
      (hopens : header.Opens (mark :: tag)) :
      OpensLoop (before ++ mark :: (tag ++ after)) header mark.offset

/-- What each parse error points to, of the tokens that were read for it. -/
inductive Blames : ParseError → List Token → Prop
  | emptyTag {tokens : List Token} {opened : Nat} (htag : EndsInTag tokens opened) :
      Blames (.emptyTag opened) tokens
  | tooFewBounds {tokens : List Token} {opened : Nat} (htag : EndsInTag tokens opened) :
      Blames (.tooFewBounds opened) tokens
  | unmatchedEnd {tokens : List Token} {opened : Nat} (htag : EndsInTag tokens opened) :
      Blames (.unmatchedEnd opened) tokens
  | unterminatedLoop {before : List Token} {last : Token} {header : LoopHeader} {opened : Nat}
      (hopening : OpensLoop before header opened) (hlast : last.kind = .endOfInput) :
      Blames (.unterminatedLoop header.name opened) (before ++ [last])
  | unexpectedToken (before : List Token) (t : Token) :
      Blames (.unexpectedToken t.describe t.offset) (before ++ [t])
  | unknownTag (before : List Token) (t : Token) :
      Blames (.unknownTag t.describe t.offset) (before ++ [t])
  | missingLoopName (before : List Token) (t : Token) :
      Blames (.missingLoopName t.describe t.offset) (before ++ [t])
  | invalidBound (before : List Token) (t : Token) :
      Blames (.invalidBound t.describe t.offset) (before ++ [t])
  | unclosedLoopTag (before : List Token) (t : Token) :
      Blames (.unclosedLoopTag t.describe t.offset) (before ++ [t])
  | unclosedEndTag (before : List Token) (t : Token) :
      Blames (.unclosedEndTag t.describe t.offset) (before ++ [t])
  | invalidElement (before : List Token) (t : Token) :
      Blames (.invalidElement t.describe t.offset) (before ++ [t])

theorem EndsInTag.exists_mem {tokens : List Token} {opened : Nat} (h : EndsInTag tokens opened) :
    ∃ t ∈ tokens, t.offset = opened := by
  cases h with
  | @intro _ _ mark => exact ⟨mark, by simp, rfl⟩

theorem OpensLoop.append {tokens : List Token} {header : LoopHeader} {opened : Nat}
    (h : OpensLoop tokens header opened) (rest : List Token) :
    OpensLoop (tokens ++ rest) header opened := by
  cases h with
  | intro hopens =>
      rw [List.append_assoc, List.cons_append, List.append_assoc]
      exact .intro hopens

theorem Blames.exists_mem {e : ParseError} {tokens : List Token} (h : Blames e tokens) :
    ∃ t ∈ tokens, t.offset = e.offset := by
  cases h with
  | emptyTag htag => exact htag.exists_mem
  | tooFewBounds htag => exact htag.exists_mem
  | unmatchedEnd htag => exact htag.exists_mem
  | unterminatedLoop hopening hlast =>
      cases hopening with
      | @intro _ _ _ mark => exact ⟨mark, by simp, rfl⟩
  | _ before t => exact ⟨t, by simp, rfl⟩

namespace Place

/-- The offset of the tag that a place is in, where it is kept. -/
def opened? : Place → Option Nat
  | betweenTags => none
  | tagName opened => some opened
  | echo _ => none
  | loopName opened => some opened
  | loopBounds opened _ _ => some opened
  | endClose opened => some opened

theorem Reads.exists_mark {place : Place} {tag : List Token} {opened : Nat} (h : place.Reads tag)
    (hopened : place.opened? = some opened) :
    ∃ mark inner, tag = mark :: inner ∧ mark.kind = .tagOpen ∧ mark.offset = opened ∧
      ∀ t ∈ inner, t.IsInner := by
  cases h with
  | betweenTags => cases hopened
  | echo => cases hopened
  | @tagName mark hmark => exact ⟨mark, [], rfl, hmark, Option.some.inj hopened, nofun⟩
  | @loopName mark name hmark htag =>
      exact ⟨mark, [name], rfl, hmark, Option.some.inj hopened, by simpa using htag.isInner⟩
  | @endClose mark name hmark htag =>
      exact ⟨mark, [name], rfl, hmark, Option.some.inj hopened, by simpa using htag.isInner⟩
  | @loopBounds mark name subject _ bounds tokens hmark htag hsubject hname hbounds hlength =>
      have htokens := Token.isInner_of_forall₂ hbounds fun _ _ => Token.Bounds.isInner
      exact ⟨mark, name :: subject :: tokens, rfl, hmark, Option.some.inj hopened,
        by simpa using ⟨htag.isInner, hsubject.isInner, htokens⟩⟩

theorem Reads.endsInTag {place : Place} {tag : List Token} {opened : Nat} {close : Token}
    (h : place.Reads tag) (hopened : place.opened? = some opened) (hclose : close.kind = .tagClose)
    (before : List Token) : EndsInTag (before ++ tag ++ [close]) opened := by
  obtain ⟨mark, inner, rfl, hmark, rfl, hinner⟩ := h.exists_mark hopened
  rw [List.append_assoc, List.cons_append]
  exact .intro hmark hinner hclose

end Place

namespace Assembly

/-- Every open loop has its opening tag among the tokens. -/
def LoopsOpenedIn (a : Assembly) (tokens : List Token) : Prop :=
  ∀ l ∈ a.loops, OpensLoop tokens l.header l.opened

variable {options : ParseOptions} {a next final : Assembly} {t : Token} {events : List Event}
  {blocks tag tokens : List Token}

theorem LoopsOpenedIn.append (h : a.LoopsOpenedIn tokens) (rest : List Token) :
    a.LoopsOpenedIn (tokens ++ rest) :=
  fun l hl => (h l hl).append rest

theorem LoopsOpenedIn.push (h : a.LoopsOpenedIn tokens) (node : Node) :
    (a.push node).LoopsOpenedIn tokens := by
  unfold Assembly.push
  split
  · exact h
  · rename_i l loops hloops
    rw [LoopsOpenedIn, hloops, List.forall_mem_cons] at h
    exact List.forall_mem_cons.mpr h

theorem LoopsOpenedIn.takes (h : a.LoopsOpenedIn (blocks ++ tag)) (hread : a.Reads blocks tag)
    (hstep : Takes a t events next) : next.LoopsOpenedIn (blocks ++ tag ++ [t]) := by
  have hbefore := h.append [t]
  cases hstep with
  | text => exact hbefore.push _
  | closeEcho => exact LoopsOpenedIn.push (a := a.goTo .betweenTags) hbefore _
  | @openLoop _ opened name start stop rest hplace hclose =>
      have hplace' := hread.place
      rw [hplace] at hplace'
      obtain ⟨mark, inner, rfl, -, rfl, -⟩ := hplace'.exists_mark rfl
      refine List.forall_mem_cons.mpr ⟨?_, hbefore⟩
      have hopening : OpensLoop (blocks ++ mark :: (inner ++ [t] ++ [])) _ mark.offset :=
        .intro (hplace'.opens hclose)
      rwa [List.append_nil, ← List.cons_append, ← List.append_assoc] at hopening
  | @closeLoop _ _ l loops hplace hclose hloops =>
      rw [LoopsOpenedIn, hloops, List.forall_mem_cons] at hbefore
      exact LoopsOpenedIn.push (a := { a with loops := loops, place := .betweenTags }) hbefore.2 _
  | _ => exact hbefore

theorem LoopsOpenedIn.steps {front : List Token} (h : a.LoopsOpenedIn (blocks ++ tag))
    (hread : a.Reads blocks tag) (hsteps : Steps a front events final) :
    final.LoopsOpenedIn (blocks ++ tag ++ front) := by
  induction hsteps generalizing blocks tag with
  | refl => rwa [List.append_nil]
  | @cons a next final t front events later hstep hrest ih =>
      have hnext := h.takes hread hstep
      obtain ⟨blocks', tag', hread', htokens⟩ := hread.takes hstep
      rw [htokens] at hnext
      have hfinal := ih hnext hread'
      rwa [← htokens, List.append_assoc, List.singleton_append] at hfinal

theorem blames_of_rejects {before : List Token} {e : ParseError}
    (hsteps : Steps .empty before events final) (h : Rejects options final t e) :
    Blames e (before ++ [t]) := by
  have hempty : empty.Reads [] [] := ⟨.root .nil, .betweenTags⟩
  have hloops : final.LoopsOpenedIn ([] ++ [] ++ before) :=
    LoopsOpenedIn.steps (fun _ hl => absurd hl List.not_mem_nil) hempty hsteps
  obtain ⟨blocks, tag, hread, hbefore⟩ := hsteps.reads hempty
  obtain rfl : before = blocks ++ tag := hbefore
  have hplace := hread.place
  cases h with
  | unexpected => exact .unexpectedToken _ _
  | unterminatedLoop hbetween hend hstrict hopen =>
      exact .unterminatedLoop (hloops _ (by simp [hopen])) hend
  | emptyTag hname hclose =>
      rw [hname] at hplace
      exact .emptyTag (hplace.endsInTag rfl hclose blocks)
  | unknownTag => exact .unknownTag _ _
  | invalidElement => exact .invalidElement _ _
  | missingLoopName => exact .missingLoopName _ _
  | tooFewBounds hbounds hclose =>
      rw [hbounds] at hplace
      exact .tooFewBounds (hplace.endsInTag rfl hclose blocks)
  | unclosedLoopTag => exact .unclosedLoopTag _ _
  | invalidBound => exact .invalidBound _ _
  | unmatchedEnd hending hclose =>
      rw [hending] at hplace
      exact .unmatchedEnd (hplace.endsInTag rfl hclose blocks)
  | unclosedEndTag => exact .unclosedEndTag _ _

end Assembly

namespace Document

/-- A parse error is about one of the tokens that the parse pulled, the one that it blames. -/
theorem blames_of_parse {options : ParseOptions} {source : Text} {e : ParseError}
    (h : parse options source = .error e) (hgrammar : ∀ lexical, e ≠ .lex lexical) :
    (∃ t ∈ (Assembly.empty.pull options (Lexer.ofSource source)).tokens, t.offset = e.offset) ∧
      Blames e (Assembly.empty.pull options (Lexer.ofSource source)).tokens := by
  obtain ⟨tokens, hcourse⟩ := exists_course options source
  have hpull : Assembly.empty.pull options (Lexer.ofSource source) = _ :=
    hcourse.pull_eq ⟨rfl, rfl⟩ rfl
  rw [hpull]
  rw [h] at hcourse
  obtain ⟨before, t, final, events, rfl, hsteps, hrejects⟩ := hcourse.exists_rejects hgrammar
  have hblames := Assembly.blames_of_rejects hsteps hrejects
  exact ⟨hblames.exists_mem, hblames⟩

/-- The innermost of two open loops is blamed, with the offset of the mark of its tag. -/
theorem blames_inner_loop :
    parse {} "a{$FOR i 1 2$}{$FOR j 1 3$}".toList = .error (.unterminatedLoop ['j'] 14) ∧
      (∃ t ∈ (Assembly.empty.pull {}
        (Lexer.ofSource "a{$FOR i 1 2$}{$FOR j 1 3$}".toList)).tokens, t.offset = 14) ∧
      Blames (.unterminatedLoop ['j'] 14)
        (Assembly.empty.pull {}
          (Lexer.ofSource "a{$FOR i 1 2$}{$FOR j 1 3$}".toList)).tokens := by
  have h : parse {} "a{$FOR i 1 2$}{$FOR j 1 3$}".toList =
      .error (.unterminatedLoop ['j'] 14) := by cbv
  exact ⟨h, blames_of_parse h (by simp)⟩

end Document

end TagMarkup
