import Mathlib
import TagMarkup.Proofs.Rendering

namespace TagMarkup

/-! Sameness is reflexive, and it is sameness of what is well formed. -/

theorem Element.beq_iff {a b : Element} :
    (a == b) = true ↔ a.kind = b.kind ∧ a.render = b.render := by
  change a.same b = true ↔ _
  simp [same]

/-- Two elements of one kind are made by one constructor. -/
@[elab_as_elim]
theorem Element.sameKind_cases {motive : (a b : Element) → a.kind = b.kind → Prop}
    (integer : ∀ v w, motive (.number (.integer v)) (.number (.integer w)) rfl)
    (double : ∀ v w, motive (.number (.double v)) (.number (.double w)) rfl)
    (string : ∀ s t, motive (.string s) (.string t) rfl)
    («variable» : ∀ s t, motive (.variable s) (.variable t) rfl)
    (function : ∀ s t, motive (.function s) (.function t) rfl)
    (operator : ∀ s t, motive (.operator s) (.operator t) rfl) :
    (a b : Element) → (h : a.kind = b.kind) → motive a b h
  | .number (.integer v), .number (.integer w), _ => integer v w
  | .number (.double v), .number (.double w), _ => double v w
  | .string s, .string t, _ => string s t
  | .variable s, .variable t, _ => «variable» s t
  | .function s, .function t, _ => function s t
  | .operator s, .operator t, _ => operator s t

instance : ReflBEq Element where
  rfl := Element.beq_iff.mpr ⟨rfl, rfl⟩

instance : ReflBEq LoopHeader where
  rfl {header} := by
    change header.same header = true
    simp [LoopHeader.same]

mutual

theorem Node.same_self : (node : Node) → node.same node = true
  | .text content => by simp [Node.same]
  | .echo elements => by simp [Node.same]
  | .loop header body => by simp [Node.same, Node.sameAll_self body]

theorem Node.sameAll_self : (nodes : List Node) → Node.sameAll nodes nodes = true
  | [] => rfl
  | node :: nodes => by simp [Node.sameAll, Node.same_self node, Node.sameAll_self nodes]

end

theorem Node.beq_eq_sameAll (nodes others : List Node) :
    (nodes == others) = Node.sameAll nodes others := by
  induction nodes generalizing others with
  | nil => cases others <;> rfl
  | cons node nodes ih =>
      cases others with
      | nil => rfl
      | cons other others =>
          rw [List.cons_beq_cons, Node.sameAll, ih]
          rfl

instance : ReflBEq Document where
  rfl {d} := (Node.beq_eq_sameAll d.children d.children).trans (Node.sameAll_self d.children)

theorem Number.isFinite_of_render_eq {n other : Number} (h : n.render = other.render)
    (hn : n.IsFinite) : other.IsFinite := by
  cases other with
  | integer value => exact .intro
  | double value =>
      by_contra hinfinite
      have hread := parse?_render hn
      rw [h] at hread
      have hnone := parse?_render_of_not_isFinite (Bool.eq_false_iff.mpr hinfinite)
      rw [render, hnone] at hread
      contradiction

theorem Element.wellFormed_of_beq {a b : Element} (h : (a == b) = true) (ha : a.WellFormed) :
    b.WellFormed := by
  obtain ⟨hkind, hrender⟩ := beq_iff.mp h
  induction a, b, hkind using sameKind_cases with
  | integer v w => exact .intro
  | double v w =>
      have hnumbers : (Number.double v).render = (Number.double w).render := hrender
      exact Number.isFinite_of_render_eq hnumbers ha
  | string s t => exact .intro
  | «variable» s t =>
      obtain rfl : s = t := hrender
      exact ha
  | function s t =>
      obtain rfl : s = t := (List.cons_eq_cons.mp hrender).2
      exact ha
  | operator s t =>
      obtain rfl : s = t := hrender
      exact ha

theorem Element.wellFormed_of_beq_list {as bs : List Element} (h : (as == bs) = true)
    (has : ∀ element ∈ as, element.WellFormed) : ∀ element ∈ bs, element.WellFormed := by
  induction as generalizing bs with
  | nil =>
      cases bs with
      | nil => exact has
      | cons => contradiction
  | cons a as ih =>
      cases bs with
      | nil => contradiction
      | cons b bs =>
          rw [List.cons_beq_cons, Bool.and_eq_true] at h
          rw [List.forall_mem_cons] at has ⊢
          exact ⟨wellFormed_of_beq h.1 has.1, ih h.2 has.2⟩

theorem LoopHeader.isFinite_of_beq {a b : LoopHeader} (h : (a == b) = true)
    (ha : ∀ bound ∈ a.bounds, bound.IsFinite) : ∀ bound ∈ b.bounds, bound.IsFinite := by
  have hbound {m n : Number} (hsame : (Element.number m == Element.number n) = true)
      (hm : m.IsFinite) : n.IsFinite := Element.wellFormed_of_beq hsame hm
  obtain ⟨name, start, stop, step⟩ := a
  obtain ⟨name', start', stop', step'⟩ := b
  change same _ _ = true at h
  simp only [same, Bool.and_eq_true] at h
  obtain ⟨⟨⟨-, hstart⟩, hstop⟩, hstep⟩ := h
  simp only [bounds, List.forall_mem_cons] at ha ⊢
  refine ⟨hbound hstart ha.1, hbound hstop ha.2.1, ?_⟩
  cases step with
  | none =>
      cases step' with
      | none => exact ha.2.2
      | some => contradiction
  | some step =>
      cases step' with
      | none => contradiction
      | some step' =>
          simp only [Option.toList_some, List.forall_mem_singleton] at ha ⊢
          exact hbound hstep ha.2.2

theorem Node.isText_eq_of_same {a b : Node} (h : a.same b = true) : a.isText = b.isText := by
  cases a with
  | text => cases b <;> first | rfl | contradiction
  | echo => cases b <;> first | rfl | contradiction
  | loop => cases b <;> first | rfl | contradiction

theorem Node.head_isText_eq_of_sameAll {as bs : List Node} (h : Node.sameAll as bs = true) :
    as.head?.any isText = bs.head?.any isText := by
  cases as with
  | nil => cases bs <;> first | rfl | contradiction
  | cons a as =>
      cases bs with
      | nil => contradiction
      | cons b bs =>
          rw [Node.sameAll, Bool.and_eq_true] at h
          exact isText_eq_of_same h.1

mutual

theorem Node.wellFormed_of_same :
    (a b : Node) → (h : a.same b = true) → (ha : a.WellFormed) → b.WellFormed
  | .text content, .text other, h, ha => by
      obtain rfl : content = other := beq_iff_eq.mp h
      exact ha
  | .echo elements, .echo others, h, ha => Element.wellFormed_of_beq_list h ha
  | .loop header body, .loop other others, h, ha => by
      rw [Node.same, Bool.and_eq_true] at h
      exact ⟨LoopHeader.isFinite_of_beq h.1 ha.1,
        Node.allWellFormed_of_sameAll body others h.2 ha.2⟩

theorem Node.allWellFormed_of_sameAll :
    (as bs : List Node) → (h : Node.sameAll as bs = true) → (has : Node.AllWellFormed as) →
      Node.AllWellFormed bs
  | [], [], _, _ => .intro
  | a :: as, b :: bs, h, has => by
      rw [Node.sameAll, Bool.and_eq_true] at h
      obtain ⟨ha, hapart, has⟩ := has
      refine ⟨Node.wellFormed_of_same a b h.1 ha, ?_, Node.allWellFormed_of_sameAll as bs h.2 has⟩
      rwa [← Node.isText_eq_of_same h.1, ← Node.head_isText_eq_of_sameAll h.2]

end

namespace Document

theorem wellFormed_of_beq {a b : Document} (h : (a == b) = true) (ha : a.WellFormed) :
    b.WellFormed :=
  Node.allWellFormed_of_sameAll a.children b.children
    ((Node.beq_eq_sameAll a.children b.children).symm.trans h) ha

theorem roundTrips_eq_true_iff {d : Document} :
    d.roundTrips = true ↔ ∃ reparsed, parse {} d.render = .ok reparsed ∧ (reparsed == d) = true := by
  unfold roundTrips
  cases parse {} d.render <;> simp

/-- Canonical texts of parsed documents are parsed to the same documents again, and are their own
canonical texts. -/
theorem parse_render_of_parse {options : ParseOptions} {source : Text} {d : Document}
    (h : parse options source = .ok d) :
    ∃ d', parse {} d.render = .ok d' ∧ (d' == d) = true ∧ d'.render = d.render := by
  obtain ⟨hwell, hbuilt⟩ := wellFormed_of_parse h
  exact ⟨d, parse_render hwell hbuilt, beq_self_eq_true d, rfl⟩

theorem parse_render_of_parse_unclosed :
    parse ⟨true⟩ ['x', '{', '$', 'F', 'O', 'R', ' ', 'i', ' ', '1', ' ', '2', '$', '}', '\\', '{'] =
      .ok ⟨[.text ['x'], .loop ⟨['i'], .integer 1, .integer 2, none⟩ [.text ['{']]]⟩ ∧
    ∃ d', parse {} (render ⟨[.text ['x'], .loop ⟨['i'], .integer 1, .integer 2, none⟩
        [.text ['{']]]⟩) = .ok d' ∧
      (d' == ⟨[.text ['x'], .loop ⟨['i'], .integer 1, .integer 2, none⟩ [.text ['{']]]⟩) = true ∧
      d'.render = render ⟨[.text ['x'], .loop ⟨['i'], .integer 1, .integer 2, none⟩
        [.text ['{']]]⟩ := by
  have hparse : parse ⟨true⟩
      ['x', '{', '$', 'F', 'O', 'R', ' ', 'i', ' ', '1', ' ', '2', '$', '}', '\\', '{'] =
      .ok ⟨[.text ['x'], .loop ⟨['i'], .integer 1, .integer 2, none⟩ [.text ['{']]]⟩ := by
    cbv
  exact ⟨hparse, parse_render_of_parse hparse⟩

/-- Of the documents that can be built, the well-formed ones survive rendering and parsing. -/
theorem roundTrips_iff_wellFormed {d : Document} (hbuilt : d.Built) :
    d.roundTrips = true ↔ d.WellFormed := by
  constructor
  · intro h
    unfold roundTrips at h
    split at h
    · rename_i reparsed hparse
      exact wellFormed_of_beq h (wellFormed_of_parse hparse).1
    · contradiction
  · intro hwell
    rw [roundTrips, parse_render hwell hbuilt]
    exact beq_self_eq_true d

theorem roundTrips_iff_wellFormed_signs :
    Built ⟨[.loop ⟨['i'], .integer 1, .integer 2, none⟩ [.echo [.operator ['+', '-']]]]⟩ ∧
    (roundTrips ⟨[.loop ⟨['i'], .integer 1, .integer 2, none⟩ [.echo [.operator ['+', '-']]]]⟩ =
        true ↔
      WellFormed ⟨[.loop ⟨['i'], .integer 1, .integer 2, none⟩
        [.echo [.operator ['+', '-']]]]⟩) := by
  have hbuilt : Built
      ⟨[.loop ⟨['i'], .integer 1, .integer 2, none⟩ [.echo [.operator ['+', '-']]]]⟩ := by
    intro node hnode
    obtain rfl := List.mem_singleton.mp hnode
    refine Node.built_loop_iff.mpr ⟨by decide, ?_⟩
    intro inner hinner
    obtain rfl := List.mem_singleton.mp hinner
    exact .echo _
  exact ⟨hbuilt, roundTrips_iff_wellFormed hbuilt⟩

example : roundTrips ⟨[.text ['a'], .text ['b']]⟩ = false := by
  cbv

example : roundTrips ⟨[.echo [.variable ['1']]]⟩ = false := by
  cbv

end Document

end TagMarkup
