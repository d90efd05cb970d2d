import TagMarkup.Proofs.Steps
import TagMarkup.Proofs.Stream

namespace TagMarkup

/-! What an assembly has read is the linearisation of its nodes and open loops, with a part of one
tag after it. -/

/-- The tokens of a tag, up to a place in it. -/
inductive Place.Reads : Place → List Token → Prop
  | betweenTags : Place.Reads .betweenTags []
  | tagName {mark : Token} (hmark : mark.kind = .tagOpen) :
      Place.Reads (.tagName mark.offset) [mark]
  | echo {mark tag : Token} {elements : List Element} {tokens : List Token}
      (hmark : mark.kind = .tagOpen) (htag : tag.IsName ['='])
      (helements : List.Forall₂ Token.Denotes tokens elements.reverse) :
      Place.Reads (.echo elements) (mark :: tag :: tokens)
  | loopName {mark tag : Token} (hmark : mark.kind = .tagOpen)
      (htag : tag.IsTagName ['F', 'O', 'R']) :
      Place.Reads (.loopName mark.offset) [mark, tag]
  | loopBounds {mark tag subject : Token} {name : Text} {bounds : List Number}
      {tokens : List Token} (hmark : mark.kind = .tagOpen) (htag : tag.IsTagName ['F', 'O', 'R'])
      (hsubject : subject.IsName name) (hname : isValidName name = true)
      (hbounds : List.Forall₂ Token.Bounds tokens bounds) (hlength : bounds.length ≤ 3) :
      Place.Reads (.loopBounds mark.offset name bounds) (mark :: tag :: subject :: tokens)
  | endClose {mark tag : Token} (hmark : mark.kind = .tagOpen)
      (htag : tag.IsTagName ['E', 'N', 'D']) :
      Place.Reads (.endClose mark.offset) [mark, tag]

theorem LoopHeader.length_bounds_le (header : LoopHeader) : header.bounds.length ≤ 3 := by
  rw [bounds]
  cases header.step <;> simp

/-- The bounds that are read are those of the header, since there are at most three. -/
theorem Place.Reads.opens {opened : Nat} {name : Text} {start stop : Number} {rest : List Number}
    {tag : List Token} {close : Token}
    (h : Place.Reads (.loopBounds opened name (start :: stop :: rest)) tag)
    (hclose : close.kind = .tagClose) :
    LoopHeader.Opens ⟨name, start, stop, rest.head?⟩ (tag ++ [close]) := by
  cases h with
  | @loopBounds mark name subject _ _ tokens hmark htag hsubject hname hbounds hle =>
      have hstep : rest.head?.toList = rest := by
        match rest with
        | [] => rfl
        | [_] => rfl
        | _ :: _ :: _ =>
            simp only [List.length_cons] at hle
            omega
      refine .intro hmark htag hsubject hname ?_ hclose
      rw [LoopHeader.bounds, hstep]
      exact hbounds

namespace Assembly

/-- The tokens of the children of a document and of the open loops with the nodes in them. -/
inductive BlocksRead (root : List Node) : List OpenLoop → List Token → Prop
  | root {tokens : List Token} (hroot : Node.LinearisesAll root.reverse tokens) :
      BlocksRead root [] tokens
  | loop {l : OpenLoop} {loops : List OpenLoop} {outer opening inner : List Token}
      (houter : BlocksRead root loops outer) (hopening : l.header.Opens opening)
      (hinner : Node.LinearisesAll l.body.reverse inner) :
      BlocksRead root (l :: loops) (outer ++ opening ++ inner)

structure Reads (a : Assembly) (blocks tag : List Token) : Prop where
  blocks : BlocksRead a.root a.loops blocks
  place : a.place.Reads tag

@[simp] theorem push_place (a : Assembly) (node : Node) : (a.push node).place = a.place := by
  unfold push
  split <;> rfl

theorem BlocksRead.push {a : Assembly} {blocks rest : List Token} {node : Node}
    (h : BlocksRead a.root a.loops blocks) (hnode : node.Linearises rest) :
    BlocksRead (a.push node).root (a.push node).loops (blocks ++ rest) := by
  obtain ⟨root, loops, place⟩ := a
  cases h with
  | root hroot => exact .root (hroot.snoc hnode)
  | loop houter hopening hinner =>
      rw [List.append_assoc]
      exact .loop houter hopening (hinner.snoc hnode)

theorem BlocksRead.leave {a : Assembly} {l : OpenLoop} {loops : List OpenLoop}
    {blocks ending : List Token} (h : BlocksRead a.root (l :: loops) blocks)
    (hending : EndsLoop ending) :
    BlocksRead (a.leave l loops).root (a.leave l loops).loops (blocks ++ ending) := by
  cases h with
  | loop houter hopening hinner =>
      rw [List.append_assoc, List.append_assoc, ← List.append_assoc _ _ ending]
      exact push (a := { a with loops := loops, place := .betweenTags }) houter
        (.loop hopening hinner hending)

theorem Reads.takes {a next : Assembly} {t : Token} {events : List Event}
    {blocks tag : List Token} (h : a.Reads blocks tag) (hstep : Takes a t events next) :
    ∃ blocks' tag', next.Reads blocks' tag' ∧ blocks ++ tag ++ [t] = blocks' ++ tag' := by
  -- The place tells which tokens of the tag there are, so each case has one case of `Place.Reads`.
  obtain ⟨root, loops, place⟩ := a
  obtain ⟨hblocks, hplace⟩ := h
  cases hstep with
  | text content offset hbetween =>
      obtain rfl : place = .betweenTags := hbetween
      cases hplace
      refine ⟨_, [], ⟨hblocks.push (.text content offset), ?_⟩, by simp⟩
      rw [push_place]
      exact .betweenTags
  | mark hbetween hmark =>
      obtain rfl : place = .betweenTags := hbetween
      cases hplace
      exact ⟨blocks, [t], ⟨hblocks, .tagName hmark⟩, by simp⟩
  | tag n hname htag =>
      obtain rfl : place = _ := hname
      cases hplace with
      | @tagName mark hmark =>
          refine ⟨blocks, [mark, t], ⟨hblocks, ?_⟩, by simp⟩
          cases n with
          | echo => exact .echo hmark (Token.isTagName_equals_iff.mp htag) .nil
          | loop => exact .loopName hmark htag
          | endLoop => exact .endClose hmark htag
  | element hecho helement =>
      obtain rfl : place = _ := hecho
      cases hplace with
      | @echo mark name elements tokens hmark htag helements =>
          refine ⟨blocks, mark :: name :: (tokens ++ [t]), ⟨hblocks, .echo hmark htag ?_⟩, by simp⟩
          rw [List.reverse_cons]
          exact List.rel_append helements (.cons helement .nil)
  | closeEcho hecho hclose =>
      obtain rfl : place = _ := hecho
      cases hplace with
      | echo hmark htag helements =>
          have hpush := BlocksRead.push (a := ⟨root, loops, .betweenTags⟩) hblocks
            (.echo hmark htag helements hclose)
          refine ⟨_, [], ⟨hpush, ?_⟩, by simp⟩
          rw [push_place]
          exact .betweenTags
  | subject hloop hsubject hname =>
      obtain rfl : place = _ := hloop
      cases hplace with
      | @loopName mark name hmark htag =>
          exact ⟨blocks, [mark, name, t],
            ⟨hblocks, .loopBounds hmark htag hsubject hname .nil (Nat.zero_le 3)⟩, by simp⟩
  | bound hloop hlength hbound =>
      obtain rfl : place = _ := hloop
      cases hplace with
      | @loopBounds mark name subject _ bounds tokens hmark htag hsubject hname hbounds hle =>
          refine ⟨blocks, mark :: name :: subject :: (tokens ++ [t]),
            ⟨hblocks, .loopBounds hmark htag hsubject hname
              (List.rel_append hbounds (.cons hbound .nil)) ?_⟩, by simp⟩
          rw [List.length_append, List.length_singleton]
          omega
  | openLoop hloop hclose =>
      obtain rfl : place = _ := hloop
      exact ⟨_, [], ⟨.loop hblocks (hplace.opens hclose) .nil, .betweenTags⟩, by simp⟩
  | closeLoop hend hclose hloops =>
      obtain rfl : place = _ := hend
      obtain rfl : loops = _ := hloops
      cases hplace with
      | endClose hmark htag =>
          refine ⟨_, [], ⟨hblocks.leave (.intro hmark htag hclose), ?_⟩, by simp⟩
          rw [leave, push_place]
          exact .betweenTags

theorem Steps.reads {a final : Assembly} {tokens : List Token} {events : List Event}
    (h : Steps a tokens events final) {blocks tag : List Token} (hread : a.Reads blocks tag) :
    ∃ blocks' tag', final.Reads blocks' tag' ∧ blocks ++ tag ++ tokens = blocks' ++ tag' := by
  induction h generalizing blocks tag with
  | refl => exact ⟨blocks, tag, hread, by simp⟩
  | @cons a next final t tokens events later hstep hrest ih =>
      obtain ⟨blocks', tag', hnext, htokens⟩ := hread.takes hstep
      obtain ⟨blocks'', tag'', hfinal, htokens'⟩ := ih hnext
      refine ⟨blocks'', tag'', hfinal, ?_⟩
      rw [← htokens', ← htokens]
      simp

/-- The tag that ends a loop, for loops that are closed at the end of the input. -/
def endTag : List Token :=
  [⟨.tagOpen, none, 0⟩, ⟨.name, some (.text ['E', 'N', 'D']), 0⟩, ⟨.tagClose, none, 0⟩]

theorem endsLoop_endTag : EndsLoop endTag :=
  .intro rfl ⟨_, .intro _ 0, by decide⟩ rfl

theorem BlocksRead.closeAll {root pending : List Node} {loops : List OpenLoop}
    {blocks rest : List Token} (h : BlocksRead root loops blocks)
    (hpending : Node.LinearisesAll pending.reverse rest) :
    Node.LinearisesAll (closeAll root pending loops)
      (blocks ++ rest ++ (List.replicate loops.length endTag).flatten) := by
  induction h generalizing pending rest with
  | root hroot =>
      rw [Assembly.closeAll, List.reverse_append]
      simpa using hroot.append hpending
  | @loop l loops outer opening inner houter hopening hinner ih =>
      have hbody : Node.LinearisesAll (pending ++ l.body).reverse (inner ++ rest) := by
        rw [List.reverse_append]
        exact hinner.append hpending
      have hnode : Node.LinearisesAll [{ l with body := pending ++ l.body }.close].reverse _ :=
        .singleton (.loop hopening hbody endsLoop_endTag)
      rw [Assembly.closeAll, List.length_cons, List.replicate_succ, List.flatten_cons]
      simpa only [List.append_assoc] using ih hnode

variable {root : List Node} {loops : List OpenLoop} {opened : Nat}

theorem steps_of_denotes {tokens : List Token} {elements : List Element}
    (h : List.Forall₂ Token.Denotes tokens elements) (before : List Element) :
    ∃ events, Steps ⟨root, loops, .echo before⟩ tokens events
      ⟨root, loops, .echo (elements.reverse ++ before)⟩ := by
  induction h generalizing before with
  | nil => exact ⟨[], .refl _⟩
  | @cons t element tokens elements helement hrest ih =>
      obtain ⟨events, hsteps⟩ := ih (element :: before)
      rw [List.reverse_cons, List.append_assoc, List.singleton_append]
      exact ⟨_, .cons (.element rfl helement) hsteps⟩

theorem steps_of_bounds {tokens : List Token} {name : Text} {bounds before : List Number}
    (h : List.Forall₂ Token.Bounds tokens bounds) (hlength : before.length + bounds.length ≤ 3) :
    ∃ events, Steps ⟨root, loops, .loopBounds opened name before⟩ tokens events
      ⟨root, loops, .loopBounds opened name (before ++ bounds)⟩ := by
  induction h generalizing before with
  | nil =>
      rw [List.append_nil]
      exact ⟨[], .refl _⟩
  | @cons t bound tokens bounds hbound hrest ih =>
      rw [List.length_cons] at hlength
      have hlength' : (before ++ [bound]).length + bounds.length ≤ 3 := by
        rw [List.length_append, List.length_singleton]
        omega
      obtain ⟨events, hsteps⟩ := ih hlength'
      rw [List.append_assoc, List.singleton_append] at hsteps
      exact ⟨_, .cons (.bound rfl (by omega) hbound) hsteps⟩

theorem takes_openLoop {header : LoopHeader} {t : Token} (hclose : t.kind = .tagClose) :
    Takes ⟨root, loops, .loopBounds opened header.name header.bounds⟩ t
      [.openLoop header.name (loops.length + 1)]
      ⟨root, ⟨header, opened, []⟩ :: loops, .betweenTags⟩ := by
  have hstep : header.step.toList.head? = header.step := by cases header.step <;> rfl
  have h : Takes ⟨root, loops, .loopBounds opened header.name header.bounds⟩ t _ _ :=
    .openLoop rfl hclose
  rwa [hstep] at h

theorem takes_closeEcho {elements : List Element} {t : Token} (hclose : t.kind = .tagClose) :
    Takes ⟨root, loops, .echo elements.reverse⟩ t []
      (push ⟨root, loops, .betweenTags⟩ (.echo elements)) := by
  have h : Takes ⟨root, loops, .echo elements.reverse⟩ t _ _ := .closeEcho rfl hclose
  rwa [List.reverse_reverse] at h

theorem steps_of_reads {place : Place} {tokens : List Token} (h : place.Reads tokens) :
    ∃ events, Steps ⟨root, loops, .betweenTags⟩ tokens events ⟨root, loops, place⟩ := by
  cases h with
  | betweenTags => exact ⟨[], .refl _⟩
  | tagName hmark => exact ⟨_, .one (.mark rfl hmark)⟩
  | @echo mark tag elements tokens hmark htag helements =>
      obtain ⟨events, hsteps⟩ : ∃ events, Steps ⟨root, loops, .echo []⟩ tokens events _ :=
        steps_of_denotes helements []
      rw [List.reverse_reverse, List.append_nil] at hsteps
      exact ⟨_, .cons (.mark rfl hmark)
        (.cons (.tag .echo rfl (Token.isTagName_equals_iff.mpr htag)) hsteps)⟩
  | loopName hmark htag => exact ⟨_, .cons (.mark rfl hmark) (.one (.tag .loop rfl htag))⟩
  | @loopBounds mark tag subject name bounds tokens hmark htag hsubject hname hbounds hlength =>
      obtain ⟨events, hsteps⟩ : ∃ events,
          Steps ⟨root, loops, .loopBounds mark.offset name []⟩ tokens events _ :=
        steps_of_bounds hbounds ((Nat.zero_add _).trans_le hlength)
      exact ⟨_, .cons (.mark rfl hmark)
        (.cons (.tag .loop rfl htag) (.cons (.subject rfl hsubject hname) hsteps))⟩
  | endClose hmark htag => exact ⟨_, .cons (.mark rfl hmark) (.one (.tag .endLoop rfl htag))⟩

theorem steps_of_opens {header : LoopHeader} {tokens : List Token} (h : header.Opens tokens) :
    ∃ events opened, Steps ⟨root, loops, .betweenTags⟩ tokens events
      ⟨root, ⟨header, opened, []⟩ :: loops, .betweenTags⟩ := by
  cases h with
  | @intro mark tag subject close bounds hmark htag hsubject hname hbounds hclose =>
      obtain ⟨events, hsteps⟩ : ∃ events, Steps ⟨root, loops, .betweenTags⟩
          (mark :: tag :: subject :: bounds) events _ :=
        steps_of_reads (.loopBounds hmark htag hsubject hname hbounds header.length_bounds_le)
      exact ⟨_, mark.offset, hsteps.append (.one (takes_openLoop hclose))⟩

theorem steps_leave {a : Assembly} {l : OpenLoop} {tag : List Token}
    (hplace : a.place = .betweenTags) (hloops : a.loops = l :: loops) (h : EndsLoop tag) :
    ∃ events, Steps a tag events (a.leave l loops) := by
  cases h with
  | intro hmark htag hclose =>
      exact ⟨_, .cons (.mark hplace hmark)
        (.cons (.tag .endLoop rfl htag) (.one (.closeLoop rfl hclose hloops)))⟩

def pushAll (a : Assembly) (nodes : List Node) : Assembly :=
  nodes.foldl push a

@[simp] theorem pushAll_cons (a : Assembly) (node : Node) (nodes : List Node) :
    a.pushAll (node :: nodes) = (a.push node).pushAll nodes := rfl

theorem pushAll_root (root nodes : List Node) (place : Place) :
    pushAll ⟨root, [], place⟩ nodes = ⟨nodes.reverse ++ root, [], place⟩ := by
  induction nodes generalizing root with
  | nil => rfl
  | cons node nodes ih =>
      rw [pushAll_cons, List.reverse_cons, List.append_assoc]
      exact ih (node :: root)

theorem pushAll_loop (root nodes : List Node) (l : OpenLoop) (loops : List OpenLoop)
    (place : Place) :
    pushAll ⟨root, l :: loops, place⟩ nodes =
      ⟨root, { l with body := nodes.reverse ++ l.body } :: loops, place⟩ := by
  induction nodes generalizing l with
  | nil => rfl
  | cons node nodes ih =>
      rw [pushAll_cons, List.reverse_cons, List.append_assoc]
      exact ih { l with body := node :: l.body }

mutual

theorem steps_of_linearises {a : Assembly} (hplace : a.place = .betweenTags) :
    (node : Node) → {tokens : List Token} → (h : node.Linearises tokens) →
      ∃ events, Steps a tokens events (a.push node)
  | .text content, _, h => by
      cases h with
      | text _ offset => exact ⟨_, .one (.text content offset hplace)⟩
  | .echo elements, _, h => by
      obtain ⟨root, loops, place⟩ := a
      obtain rfl : place = .betweenTags := hplace
      cases h with
      | echo hmark htag helements hclose =>
          rw [← elements.reverse_reverse] at helements
          obtain ⟨events, hsteps⟩ := steps_of_reads (.echo hmark htag helements)
          exact ⟨_, hsteps.append (.one (takes_closeEcho hclose))⟩
  | .loop header body, _, h => by
      obtain ⟨root, loops, place⟩ := a
      obtain rfl : place = .betweenTags := hplace
      cases h with
      | loop hopening hinner hending =>
          obtain ⟨events, opened, hsteps⟩ := steps_of_opens hopening
          obtain ⟨later, hbody⟩ := steps_of_linearisesAll
            (a := ⟨root, ⟨header, opened, []⟩ :: loops, .betweenTags⟩) rfl body hinner
          rw [pushAll_loop, List.append_nil] at hbody
          obtain ⟨ending, hleave⟩ := steps_leave (l := ⟨header, opened, body.reverse⟩)
            (a := ⟨root, ⟨header, opened, body.reverse⟩ :: loops, .betweenTags⟩) rfl rfl hending
          rw [leave, OpenLoop.close, List.reverse_reverse] at hleave
          exact ⟨_, (hsteps.append hbody).append hleave⟩

theorem steps_of_linearisesAll {a : Assembly} (hplace : a.place = .betweenTags) :
    (nodes : List Node) → {tokens : List Token} → (h : Node.LinearisesAll nodes tokens) →
      ∃ events, Steps a tokens events (a.pushAll nodes)
  | [], _, h => by
      cases h with
      | nil => exact ⟨[], .refl a⟩
  | node :: nodes, _, h => by
      cases h with
      | cons hnode hnodes =>
          obtain ⟨events, hsteps⟩ := steps_of_linearises hplace node hnode
          obtain ⟨later, hrest⟩ := steps_of_linearisesAll ((push_place a node).trans hplace) nodes
            hnodes
          exact ⟨_, hsteps.append hrest⟩

end

theorem reads_empty : empty.Reads [] [] :=
  ⟨.root .nil, .betweenTags⟩

theorem Steps.linearises {final : Assembly} {tokens : List Token} {events : List Event}
    (h : Steps empty tokens events final) (hplace : final.place = .betweenTags) :
    Node.LinearisesAll (closeAll final.root [] final.loops)
      (tokens ++ (List.replicate final.loops.length endTag).flatten) := by
  obtain ⟨blocks, tag, hread, htokens⟩ := h.reads reads_empty
  obtain ⟨hblocks, htag⟩ := hread
  rw [hplace] at htag
  cases htag with
  | betweenTags =>
      rw [List.nil_append, List.nil_append, List.append_nil] at htokens
      subst htokens
      have hnothing : Node.LinearisesAll [].reverse [] := .nil
      simpa using hblocks.closeAll hnothing

end Assembly

namespace Document

theorem parse_eq_ok_iff {options : ParseOptions} {source : Text} {d : Document} :
    parse options source = .ok d ↔
      ∃ front last final earlier ending, tokenize source = .ok (front ++ [last]) ∧
        Assembly.Steps .empty front earlier final ∧
        Assembly.Ends options final last ending d := by
  have hparse : parse options source =
      (Assembly.empty.run options 0 (itemsFrom .outsideTag 0 source)).2 := rfl
  simp only [tokenize_eq, collect_eq_ok_iff]
  constructor
  · intro h
    rw [hparse] at h
    obtain ⟨front, last, rest, final, earlier, ending, hitems, hsteps, hends, -⟩ :=
      Assembly.run_eq_ok_iff.mp (Prod.ext rfl h)
    rw [eq_nil_of_itemsFrom hends.kind hitems] at hitems
    exact ⟨front, last, final, earlier, ending, by simpa using hitems, hsteps, hends⟩
  · rintro ⟨front, last, final, earlier, ending, hitems, hsteps, hends⟩
    rw [List.map_append, List.map_singleton] at hitems
    have hrun : Assembly.empty.run options 0 (itemsFrom .outsideTag 0 source) = _ :=
      Assembly.run_eq_ok_iff.mpr
        ⟨front, last, [], final, earlier, ending, hitems, hsteps, hends, rfl⟩
    rw [hparse, hrun]

/-- What is parsed is a linearisation, to which the ends of the loops that are closed implicitly
are added. -/
theorem linearises_of_parse {options : ParseOptions} {source : Text} {d : Document}
    (h : parse options source = .ok d) :
    ∃ front last missing, tokenize source = .ok (front ++ [last]) ∧ last.kind = .endOfInput ∧
      Node.LinearisesAll d.children
        (front ++ (List.replicate missing Assembly.endTag).flatten) ∧
      (options.allowUnclosed = false → missing = 0) := by
  obtain ⟨front, last, final, earlier, ending, htokens, hsteps, hends⟩ := parse_eq_ok_iff.mp h
  refine ⟨front, last, final.loops.length, htokens, hends.kind, ?_, ?_⟩
  · rw [hends.document]
    exact hsteps.linearises hends.place
  · intro hstrict
    obtain hallowed | hloops := hends.loops
    · rw [hstrict] at hallowed
      contradiction
    · rw [hloops, List.length_nil]

theorem parse_of_linearises (options : ParseOptions) {source : Text} {d : Document}
    {front : List Token} {last : Token} (htokens : tokenize source = .ok (front ++ [last]))
    (hlast : last.kind = .endOfInput) (h : Node.LinearisesAll d.children front) :
    parse options source = .ok d := by
  obtain ⟨events, hsteps⟩ := Assembly.steps_of_linearisesAll (a := .empty) rfl d.children h
  rw [Assembly.empty, Assembly.pushAll_root, List.append_nil] at hsteps
  refine parse_eq_ok_iff.mpr ⟨front, last, _, events, _, htokens, hsteps, rfl, hlast, .inr rfl,
    rfl, ?_⟩
  rw [Assembly.closeAll, List.nil_append, List.reverse_reverse]

/-- A source has a document exactly if its tokens are a linearisation of the document and the end of
the input. -/
theorem parse_eq_ok_iff_linearises (source : Text) (d : Document) :
    parse {} source = .ok d ↔
      ∃ front last, tokenize source = .ok (front ++ [last]) ∧ last.kind = .endOfInput ∧
        Node.LinearisesAll d.children front := by
  constructor
  · intro h
    obtain ⟨front, last, missing, htokens, hlast, hlinearises, hmissing⟩ := linearises_of_parse h
    obtain rfl := hmissing rfl
    exact ⟨front, last, htokens, hlast, by simpa using hlinearises⟩
  · rintro ⟨front, last, htokens, hlast, h⟩
    exact parse_of_linearises {} htokens hlast h

end Document

end TagMarkup
