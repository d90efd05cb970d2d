import Mathlib
import TagMarkup.Proofs.LoopTags
import TagMarkup.Proofs.Pulling

namespace TagMarkup

/-! What a parse has reported is at every point the traversal of the partial tree that it holds. -/

namespace Event

/-- Tokens are reported in more detail than the rest. -/
def isDebug : Event → Bool
  | token _ _ => false
  | _ => true

def IsBracket (event : Event) : Prop :=
  ∃ name depth, event = .openLoop name depth ∨ event = .closeLoop name depth

theorem IsBracket.isDebug {event : Event} (h : event.IsBracket) : event.isDebug = true := by
  obtain ⟨name, depth, rfl | rfl⟩ := h
  · rfl
  · rfl

end Event

mutual

/-- The events of the loops in a node that lies below `depth` loops. A loop is closed by a tag or
implicitly. -/
inductive Node.Reports : Nat → Node → List Event → Prop
  | text {depth : Nat} (content : Text) : Node.Reports depth (.text content) []
  | echo {depth : Nat} (elements : List Element) : Node.Reports depth (.echo elements) []
  | closed {depth : Nat} {header : LoopHeader} {body : List Node} {events : List Event}
      (hbody : Node.ReportsAll (depth + 1) body events) :
      Node.Reports depth (.loop header body)
        (.openLoop header.name (depth + 1) :: (events ++ [.closeLoop header.name depth]))
  | unclosed {depth : Nat} {header : LoopHeader} {body : List Node} {events : List Event}
      (hbody : Node.ReportsAll (depth + 1) body events) :
      Node.Reports depth (.loop header body)
        (.openLoop header.name (depth + 1) :: (events ++ [.closeImplicitly header.name]))

inductive Node.ReportsAll : Nat → List Node → List Event → Prop
  | nil {depth : Nat} : Node.ReportsAll depth [] []
  | cons {depth : Nat} {node : Node} {nodes : List Node} {events later : List Event}
      (hnode : node.Reports depth events) (hnodes : Node.ReportsAll depth nodes later) :
      Node.ReportsAll depth (node :: nodes) (events ++ later)

end

/-- Loops that are opened and closed in turn, below `depth` other loops. -/
inductive Balanced : Nat → List Event → Prop
  | nil {depth : Nat} : Balanced depth []
  | loop {depth : Nat} {name : Text} {inner later : List Event}
      (hinner : Balanced (depth + 1) inner) (hlater : Balanced depth later) :
      Balanced depth (.openLoop name (depth + 1) :: (inner ++ .closeLoop name depth :: later))

theorem Balanced.append {depth : Nat} {events later : List Event} (h : Balanced depth events)
    (hlater : Balanced depth later) : Balanced depth (events ++ later) := by
  induction h with
  | nil => exact hlater
  | @loop depth name inner rest hinner hrest ihInner ihRest =>
      rw [List.cons_append, List.append_assoc, List.cons_append]
      exact .loop hinner (ihRest hlater)

theorem Node.ReportsAll.append {depth : Nat} {front back : List Node} {events later : List Event}
    (hfront : ReportsAll depth front events) (hback : ReportsAll depth back later) :
    ReportsAll depth (front ++ back) (events ++ later) := by
  induction front generalizing events with
  | nil =>
      cases hfront
      exact hback
  | cons node nodes ih =>
      cases hfront with
      | cons hnode hnodes =>
          rw [List.append_assoc]
          exact .cons hnode (ih hnodes)

theorem Node.ReportsAll.singleton {depth : Nat} {node : Node} {events : List Event}
    (h : node.Reports depth events) : ReportsAll depth [node] events := by
  simpa using cons h nil

mutual

/-- The events of a node whose loops are all closed by tags. -/
def Node.loopEvents (depth : Nat) : Node → List Event
  | .text _ => []
  | .echo _ => []
  | .loop header body =>
      .openLoop header.name (depth + 1) ::
        (Node.loopEventsAll (depth + 1) body ++ [.closeLoop header.name depth])

def Node.loopEventsAll (depth : Nat) : List Node → List Event
  | [] => []
  | node :: nodes => node.loopEvents depth ++ Node.loopEventsAll depth nodes

end

theorem Node.loopEventsAll_append (depth : Nat) (front back : List Node) :
    loopEventsAll depth (front ++ back) = loopEventsAll depth front ++ loopEventsAll depth back := by
  induction front with
  | nil => rfl
  | cons node nodes ih =>
      rw [List.cons_append, loopEventsAll, loopEventsAll, ih, List.append_assoc]

theorem Node.loopEventsAll_reverse_cons (depth : Nat) (node : Node) (latest : List Node) :
    loopEventsAll depth (node :: latest).reverse =
      loopEventsAll depth latest.reverse ++ node.loopEvents depth := by
  rw [List.reverse_cons, loopEventsAll_append, loopEventsAll, loopEventsAll, List.append_nil]

mutual

theorem Node.reports_loopEvents (depth : Nat) :
    (node : Node) → node.Reports depth (node.loopEvents depth)
  | .text content => .text content
  | .echo elements => .echo elements
  | .loop _ body => .closed (Node.reportsAll_loopEventsAll (depth + 1) body)

theorem Node.reportsAll_loopEventsAll (depth : Nat) :
    (nodes : List Node) → Node.ReportsAll depth nodes (Node.loopEventsAll depth nodes)
  | [] => .nil
  | node :: nodes =>
      .cons (Node.reports_loopEvents depth node) (Node.reportsAll_loopEventsAll depth nodes)

end

mutual

theorem Node.balanced_loopEvents (depth : Nat) :
    (node : Node) → Balanced depth (node.loopEvents depth)
  | .text _ => .nil
  | .echo _ => .nil
  | .loop _ body => .loop (Node.balanced_loopEventsAll (depth + 1) body) .nil

theorem Node.balanced_loopEventsAll (depth : Nat) :
    (nodes : List Node) → Balanced depth (Node.loopEventsAll depth nodes)
  | [] => .nil
  | node :: nodes =>
      (Node.balanced_loopEvents depth node).append (Node.balanced_loopEventsAll depth nodes)

end

namespace Assembly

/-- The events of the nodes of an assembly and of its open loops. -/
def loopEventsOf (root : List Node) : List OpenLoop → List Event
  | [] => Node.loopEventsAll 0 root.reverse
  | l :: loops =>
      loopEventsOf root loops ++ .openLoop l.header.name (loops.length + 1) ::
        Node.loopEventsAll (loops.length + 1) l.body.reverse

def loopEvents (a : Assembly) : List Event :=
  loopEventsOf a.root a.loops

variable {options : ParseOptions} {a next final : Assembly} {t : Token} {events : List Event}

theorem push_loopEvents (a : Assembly) (node : Node) :
    (a.push node).loopEvents = a.loopEvents ++ node.loopEvents a.loops.length := by
  obtain ⟨root, loops, place⟩ := a
  cases loops with
  | nil => exact Node.loopEventsAll_reverse_cons 0 node root
  | cons l loops =>
      simp only [push, loopEvents, loopEventsOf, Node.loopEventsAll_reverse_cons,
        List.append_assoc, List.cons_append, List.length_cons]

theorem leave_loopEvents (a : Assembly) (l : OpenLoop) (loops : List OpenLoop) :
    (a.leave l loops).loopEvents =
      loopEventsOf a.root (l :: loops) ++ [.closeLoop l.header.name loops.length] := by
  rw [leave, push_loopEvents, OpenLoop.close, Node.loopEvents, loopEventsOf, List.append_assoc,
    List.cons_append]
  rfl

/-- A step reports what it adds to the tree. -/
theorem Takes.loopEvents_eq (h : Takes a t events next) :
    next.loopEvents = a.loopEvents ++ events := by
  cases h with
  | text content offset hplace => exact push_loopEvents a _
  | mark hplace hkind => exact (List.append_nil _).symm
  | tag n hplace hname => exact (List.append_nil _).symm
  | element hplace helement => exact (List.append_nil _).symm
  | closeEcho hplace hkind => exact push_loopEvents _ _
  | subject hplace hname hvalid => exact (List.append_nil _).symm
  | bound hplace hlength hbound => exact (List.append_nil _).symm
  | openLoop hplace hkind => rfl
  | closeLoop hplace hkind hloops =>
      rw [leave_loopEvents, ← hloops]
      rfl

theorem Takes.isBracket (h : Takes a t events next) : ∀ event ∈ events, event.IsBracket := by
  cases h <;> simp [Event.IsBracket]

theorem Takes.filter_isDebug (h : Takes a t events next) (later : List Event) :
    (.token t.kind t.offset :: events ++ later).filter Event.isDebug =
      events ++ later.filter Event.isDebug := by
  have hevents : events.filter Event.isDebug = events :=
    List.filter_eq_self.mpr fun event hevent => (h.isBracket event hevent).isDebug
  rw [List.filter_append, List.filter_cons_of_neg Bool.false_ne_true, hevents]

theorem Steps.loopEvents_eq {front : List Token} (h : Steps a front events final) :
    final.loopEvents = a.loopEvents ++ events.filter Event.isDebug := by
  induction h with
  | refl => exact (List.append_nil _).symm
  | cons hstep hrest ih => rw [ih, hstep.loopEvents_eq, hstep.filter_isDebug, List.append_assoc]

theorem Steps.isBracket {front : List Token} (h : Steps a front events final) :
    ∀ event ∈ events.filter Event.isDebug, event.IsBracket := by
  induction h with
  | refl => simp
  | cons hstep hrest ih =>
      rw [hstep.filter_isDebug]
      intro event hevent
      rcases List.mem_append.mp hevent with hevent | hevent
      · exact hstep.isBracket event hevent
      · exact ih event hevent

theorem reportsAll_closeAll {root pending : List Node} {loops : List OpenLoop}
    {inner : List Event} (h : Node.ReportsAll loops.length pending.reverse inner) :
    Node.ReportsAll 0 (closeAll root pending loops)
      (loopEventsOf root loops ++ inner ++ loops.map fun l => .closeImplicitly l.header.name) := by
  -- The nodes still to come go into the innermost loop, which is then itself all that is to come.
  induction loops generalizing pending inner with
  | nil =>
      rw [closeAll, List.reverse_append, List.map_nil, List.append_nil]
      exact (Node.reportsAll_loopEventsAll 0 root.reverse).append h
  | cons l loops ih =>
      have hbody : Node.ReportsAll (loops.length + 1) (pending ++ l.body).reverse
          (Node.loopEventsAll (loops.length + 1) l.body.reverse ++ inner) := by
        rw [List.reverse_append]
        exact (Node.reportsAll_loopEventsAll _ _).append h
      have hnode : Node.ReportsAll loops.length
          [OpenLoop.close { l with body := pending ++ l.body }].reverse _ :=
        .singleton (.unclosed hbody)
      rw [closeAll]
      simpa [loopEventsOf] using ih hnode

theorem balanced_loopEventsOf {root : List Node} {loops : List OpenLoop} {inner : List Event}
    (h : Balanced loops.length inner) :
    ∃ closing, Balanced 0 (loopEventsOf root loops ++ inner ++ closing) := by
  induction loops generalizing inner with
  | nil =>
      refine ⟨[], ?_⟩
      rw [List.append_nil]
      exact (Node.balanced_loopEventsAll 0 root.reverse).append h
  | cons l loops ih =>
      have hbody := (Node.balanced_loopEventsAll (loops.length + 1) l.body.reverse).append h
      have hloop : Balanced loops.length (.openLoop l.header.name (loops.length + 1) :: _) :=
        .loop hbody .nil
      obtain ⟨closing, hclosing⟩ := ih hloop
      refine ⟨.closeLoop l.header.name loops.length :: closing, ?_⟩
      simpa [loopEventsOf] using hclosing

theorem Ends.reportsAll {d : Document} (h : Ends options a t events d) :
    Node.ReportsAll 0 d.children
      (a.loopEvents ++ a.loops.map fun l => .closeImplicitly l.header.name) := by
  have hnothing : Node.ReportsAll a.loops.length [].reverse [] := .nil
  rw [h.document]
  simpa [loopEvents] using reportsAll_closeAll hnothing

theorem Ends.filter_isDebug {d : Document} (h : Ends options a t events d) :
    (.token t.kind t.offset :: events).filter Event.isDebug =
      a.loops.map (fun l => .closeImplicitly l.header.name) ++ [.parsed d.nodeCount] := by
  rw [h.events, List.filter_cons_of_neg Bool.false_ne_true, List.filter_eq_self]
  intro event hevent
  rcases List.mem_append.mp hevent with hclose | hparsed
  · obtain ⟨l, -, rfl⟩ := List.mem_map.mp hclose
    rfl
  · obtain rfl := List.mem_singleton.mp hparsed
    rfl

theorem Steps.balanced {front : List Token} (h : Steps empty front events final) :
    ∃ closing, Balanced 0 (events.filter Event.isDebug ++ closing) := by
  have hlog : events.filter Event.isDebug = final.loopEvents := h.loopEvents_eq.symm
  have hnothing : Balanced final.loops.length [] := .nil
  rw [hlog, loopEvents]
  simpa using balanced_loopEventsOf hnothing

theorem Course.balanced {items : List (Except LexError Token)} {tokens : List Token}
    {e : ParseError} (h : Course options empty items tokens events (.error e)) :
    ∃ closing, Balanced 0 (events.filter Event.isDebug ++ closing) := by
  cases h with
  | fault hsteps => exact hsteps.balanced
  | rejects hsteps hrejects =>
      rw [List.filter_append, List.filter_cons_of_neg Bool.false_ne_true, List.filter_nil,
        List.append_nil]
      exact hsteps.balanced

end Assembly

namespace Document

/-- What a parse reports but for the tokens that it takes. -/
def debugEvents (options : ParseOptions) (source : Text) : List Event :=
  (trace options source).1.filter Event.isDebug

/-- A parse reports the loops of its document in order, and the document at last. The loops that
have no end in the source are closed after all other reports, and only where that is allowed; the
latest of them is closed first. A parse that fails has reported a part of such a sequence. -/
theorem debugEvents_mirror (options : ParseOptions) (source : Text) :
    (∀ d, parse options source = .ok d → ∃ tokens brackets names,
      tokenize source = .ok tokens ∧ names = (unclosed tokens).map Prod.fst ∧
      debugEvents options source =
        brackets ++ names.map Event.closeImplicitly ++ [.parsed d.nodeCount] ∧
      Node.ReportsAll 0 d.children (brackets ++ names.map Event.closeImplicitly) ∧
      (∀ event ∈ brackets, event.IsBracket) ∧
      (options.allowUnclosed = false → names = [])) ∧
    ∀ e, parse options source = .error e →
      ∃ closing, Balanced 0 (debugEvents options source ++ closing) := by
  obtain ⟨tokens, hcourse⟩ := exists_course options source
  constructor
  · intro d hparse
    rw [hparse] at hcourse
    have htokens : tokenize source = .ok tokens := collect_eq_ok_iff.mpr hcourse.items_of_ok.1
    unfold debugEvents
    generalize itemsFrom .outsideTag 0 source = items at hcourse
    generalize (trace options source).1 = log at hcourse
    cases hcourse with
    | @ends front last rest final events ending d hsteps hends =>
        have hopen := hsteps.unclosed_eq hends.place hends.kind
        have hnames : ((unclosed (front ++ [last])).map Prod.fst).map Event.closeImplicitly =
            final.loops.map fun l => .closeImplicitly l.header.name := by
          rw [hopen, List.map_map, List.map_map]
          rfl
        have hlog : events.filter Event.isDebug = final.loopEvents := hsteps.loopEvents_eq.symm
        refine ⟨_, final.loopEvents, _, htokens, rfl, ?_, ?_, ?_, ?_⟩
        · rw [hnames, List.filter_append, hends.filter_isDebug, hlog, List.append_assoc]
        · rw [hnames]
          exact hends.reportsAll
        · rw [← hlog]
          exact hsteps.isBracket
        · intro hstrict
          rcases hends.loops with hallowed | hclosed
          · rw [hstrict] at hallowed
            contradiction
          · rw [hopen, hclosed, List.map_nil, List.map_nil]
  · intro e hparse
    rw [hparse] at hcourse
    exact hcourse.balanced

theorem debugEvents_mirror_nested :
    parse ⟨true⟩ "{$FOR i 1 2$}{$FOR j 3 4$}x" =
      .ok ⟨[.loop ⟨['i'], .integer 1, .integer 2, none⟩
        [.loop ⟨['j'], .integer 3, .integer 4, none⟩ [.text ['x']]]]⟩ ∧
    (∃ tokens brackets names, tokenize "{$FOR i 1 2$}{$FOR j 3 4$}x" = .ok tokens ∧
      names = (unclosed tokens).map Prod.fst ∧
      debugEvents ⟨true⟩ "{$FOR i 1 2$}{$FOR j 3 4$}x" =
        brackets ++ names.map Event.closeImplicitly ++ [.parsed 3]) ∧
    parse {} "x{$END$}" = .error (.unmatchedEnd 1) ∧
    ∃ closing, Balanced 0 (debugEvents {} "x{$END$}" ++ closing) := by
  have hparse : parse ⟨true⟩ "{$FOR i 1 2$}{$FOR j 3 4$}x" =
      .ok ⟨[.loop ⟨['i'], .integer 1, .integer 2, none⟩
        [.loop ⟨['j'], .integer 3, .integer 4, none⟩ [.text ['x']]]]⟩ := by
    cbv
  have herror : parse {} "x{$END$}" = .error (.unmatchedEnd 1) := by
    cbv
  obtain ⟨tokens, brackets, names, htokens, hnames, hevents, -⟩ :=
    (debugEvents_mirror _ _).1 _ hparse
  exact ⟨hparse, ⟨tokens, brackets, names, htokens, hnames, hevents⟩, herror,
    (debugEvents_mirror _ _).2 _ herror⟩

end Document

end TagMarkup
