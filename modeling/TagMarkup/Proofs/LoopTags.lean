import TagMarkup.Proofs.Grammar

namespace TagMarkup

/-- A tag that opens a loop over a variable, or one that ends a loop,
with the offset of its mark. -/
inductive LoopTag where
  | opening (name : Text) (offset : Nat)
  | ending (offset : Nat)
deriving DecidableEq

def loopVariable (tokens : List Token) : Text :=
  (tokens.head?.bind Token.variableName?).getD []

/-- The loop tag that the tokens after a mark belong to. -/
def LoopTag.after? (offset : Nat) : List Token → Option LoopTag
  | [] => none
  | tag :: tokens =>
      match tag.tagName? with
      | some .loop => some (.opening (loopVariable tokens) offset)
      | some .endLoop => some (.ending offset)
      | _ => none

def loopTags : List Token → List LoopTag
  | [] => []
  | t :: tokens =>
      (if t.kind = .tagOpen then (LoopTag.after? t.offset tokens).toList else []) ++
        loopTags tokens

/-- The loops that have no end after some more tags, the latest first. -/
def unclosedAfter (loops : List (Text × Nat)) : List LoopTag → List (Text × Nat)
  | [] => loops
  | .opening name offset :: tags => unclosedAfter ((name, offset) :: loops) tags
  | .ending _ :: tags => unclosedAfter loops.tail tags

/-- A loop is open at each tag that ends one. -/
def Matched (loops : List (Text × Nat)) : List LoopTag → Prop
  | [] => True
  | .opening name offset :: tags => Matched ((name, offset) :: loops) tags
  | .ending _ :: tags => loops ≠ [] ∧ Matched loops.tail tags

theorem unclosedAfter_append (loops : List (Text × Nat)) (front back : List LoopTag) :
    unclosedAfter loops (front ++ back) = unclosedAfter (unclosedAfter loops front) back := by
  induction front generalizing loops with
  | nil => rfl
  | cons tag front ih =>
      cases tag with
      | opening name offset => exact ih _
      | ending offset => exact ih _

theorem matched_append_iff {loops : List (Text × Nat)} {front back : List LoopTag} :
    Matched loops (front ++ back) ↔
      Matched loops front ∧ Matched (unclosedAfter loops front) back := by
  induction front generalizing loops with
  | nil => simp [Matched, unclosedAfter]
  | cons tag front ih =>
      cases tag with
      | opening name offset => exact ih
      | ending offset => simp only [List.cons_append, Matched, unclosedAfter, ih, and_assoc]

theorem matched_iff {loops : List (Text × Nat)} {tags : List LoopTag} :
    Matched loops tags ↔
      ∀ before opened after, tags = before ++ .ending opened :: after →
        unclosedAfter loops before ≠ [] := by
  constructor
  · rintro h before opened after rfl
    exact (matched_append_iff.mp h).2.1
  · intro h
    induction tags generalizing loops with
    | nil => trivial
    | cons tag tags ih =>
        have hrest (before : List LoopTag) (opened : Nat) (after : List LoopTag)
            (hsplit : tags = before ++ .ending opened :: after) :
            unclosedAfter loops (tag :: before) ≠ [] :=
          h (tag :: before) opened after (by rw [hsplit, List.cons_append])
        cases tag with
        | opening name offset => exact ih hrest
        | ending offset => exact ⟨h [] offset tags rfl, ih hrest⟩

/-- The loops that are opened and have no end, the latest first. -/
def unclosed (tokens : List Token) : List (Text × Nat) :=
  unclosedAfter [] (loopTags tokens)

theorem loopTags_of_ne {t : Token} (h : t.kind ≠ .tagOpen) (tokens : List Token) :
    loopTags (t :: tokens) = loopTags tokens := by
  rw [loopTags, if_neg h, List.nil_append]

def Place.loopTags (tokens : List Token) : Place → List LoopTag
  | betweenTags => TagMarkup.loopTags tokens
  | tagName opened => (LoopTag.after? opened tokens).toList ++ TagMarkup.loopTags tokens
  | echo _ => TagMarkup.loopTags tokens
  | loopName opened => .opening (loopVariable tokens) opened :: TagMarkup.loopTags tokens
  | loopBounds opened name _ => .opening name opened :: TagMarkup.loopTags tokens
  | endClose opened => .ending opened :: TagMarkup.loopTags tokens

def OpenLoop.tag (l : OpenLoop) : Text × Nat :=
  (l.header.name, l.opened)

namespace Assembly

@[simp] theorem push_loops_tag (a : Assembly) (node : Node) :
    (a.push node).loops.map OpenLoop.tag = a.loops.map OpenLoop.tag := by
  unfold push
  split
  · rename_i hloops
    simp [hloops]
  · rename_i l loops hloops
    simp [hloops, OpenLoop.tag]

/-- The loop tags that end at a token are those that open a loop or close one there. -/
theorem Takes.loopTags {a next : Assembly} {t : Token} {events : List Event}
    (h : Takes a t events next) (tokens : List Token) :
    ∃ tags, a.place.loopTags (t :: tokens) = tags ++ next.place.loopTags tokens ∧
      Matched (a.loops.map OpenLoop.tag) tags ∧
      unclosedAfter (a.loops.map OpenLoop.tag) tags = next.loops.map OpenLoop.tag := by
  cases h with
  | text content offset hplace =>
      refine ⟨[], ?_, trivial, (push_loops_tag _ _).symm⟩
      rw [push_place, hplace]
      exact loopTags_of_ne (by simp) tokens
  | mark hplace hkind =>
      refine ⟨[], ?_, trivial, rfl⟩
      simp only [hplace, goTo, Place.loopTags, TagMarkup.loopTags, if_pos hkind, List.nil_append]
  | @tag _ opened n hplace htag =>
      refine ⟨[], ?_, trivial, rfl⟩
      simp only [hplace, goTo, Place.loopTags, loopTags_of_ne htag.isInner.ne_tagOpen,
        LoopTag.after?, Token.tagName?_eq_some_iff.mpr htag]
      cases n <;> rfl
  | element hplace helement =>
      refine ⟨[], ?_, trivial, rfl⟩
      simp only [hplace, goTo, Place.loopTags, loopTags_of_ne helement.isInner.ne_tagOpen,
        List.nil_append]
  | closeEcho hplace hkind =>
      refine ⟨[], ?_, trivial, (push_loops_tag (a.goTo .betweenTags) _).symm⟩
      have hopen : t.kind ≠ .tagOpen := by simp [hkind]
      simp only [hplace, push_place, goTo, Place.loopTags, loopTags_of_ne hopen, List.nil_append]
  | @subject _ opened name hplace hname hvalid =>
      refine ⟨[], ?_, trivial, rfl⟩
      have hvariable := Token.variableName?_eq_some_iff.mpr ⟨hname, hvalid⟩
      simp only [hplace, goTo, Place.loopTags, loopTags_of_ne hname.isInner.ne_tagOpen,
        loopVariable, List.head?_cons, Option.bind_some, hvariable, Option.getD_some,
        List.nil_append]
  | bound hplace hlength hbound =>
      refine ⟨[], ?_, trivial, rfl⟩
      simp only [hplace, goTo, Place.loopTags, loopTags_of_ne hbound.isInner.ne_tagOpen,
        List.nil_append]
  | @openLoop _ opened name start stop rest hplace hkind =>
      refine ⟨[.opening name opened], ?_, trivial, rfl⟩
      have hopen : t.kind ≠ .tagOpen := by simp [hkind]
      simp only [hplace, enter, Place.loopTags, loopTags_of_ne hopen, List.singleton_append]
  | @closeLoop _ opened l loops hplace hkind hloops =>
      refine ⟨[.ending opened], ?_, ⟨by simp [hloops], trivial⟩, ?_⟩
      · have hopen : t.kind ≠ .tagOpen := by simp [hkind]
        simp only [hplace, leave, push_place, Place.loopTags, loopTags_of_ne hopen,
          List.singleton_append]
      · simp only [hloops, leave, push_loops_tag]
        rfl

/-- The loop tags that are taken each find an open loop where they end one, and leave those without
an end that are then open. -/
theorem Steps.loopTags {a final : Assembly} {front : List Token} {events : List Event}
    (h : Steps a front events final) (tokens : List Token) :
    ∃ tags, a.place.loopTags (front ++ tokens) = tags ++ final.place.loopTags tokens ∧
      Matched (a.loops.map OpenLoop.tag) tags ∧
      unclosedAfter (a.loops.map OpenLoop.tag) tags = final.loops.map OpenLoop.tag := by
  induction h with
  | refl => exact ⟨[], rfl, trivial, rfl⟩
  | @cons a next final t front events later hstep hrest ih =>
      obtain ⟨first, htags, hmatched, hopen⟩ := hstep.loopTags (front ++ tokens)
      obtain ⟨others, htags', hmatched', hopen'⟩ := ih
      refine ⟨first ++ others, ?_, ?_, ?_⟩
      · rw [List.cons_append, htags, htags', List.append_assoc]
      · rw [matched_append_iff, hopen]
        exact ⟨hmatched, hmatched'⟩
      · rw [unclosedAfter_append, hopen, hopen']

theorem Steps.loopTags_append {final : Assembly} {front : List Token} {events : List Event}
    (h : Steps empty front events final) (hplace : final.place = .betweenTags)
    (tokens : List Token) :
    ∃ tags, TagMarkup.loopTags (front ++ tokens) = tags ++ TagMarkup.loopTags tokens ∧
      Matched [] tags ∧ unclosedAfter [] tags = final.loops.map OpenLoop.tag := by
  have htags := h.loopTags tokens
  rwa [hplace] at htags

theorem loopTags_of_endOfInput {last : Token} (hlast : last.kind = .endOfInput) :
    TagMarkup.loopTags [last] = [] :=
  loopTags_of_ne (by simp [hlast]) []

/-- Between two tags the open loops are those that the tags before leave without an end. -/
theorem Steps.unclosed_eq {final : Assembly} {front : List Token} {events : List Event}
    (h : Steps empty front events final) (hplace : final.place = .betweenTags) {last : Token}
    (hlast : last.kind = .endOfInput) :
    unclosed (front ++ [last]) = final.loops.map OpenLoop.tag := by
  obtain ⟨tags, htags, -, hloops⟩ := h.loopTags_append hplace [last]
  rw [unclosed, htags, loopTags_of_endOfInput hlast, List.append_nil, hloops]

end Assembly

end TagMarkup
