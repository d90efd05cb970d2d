import Mathlib
import TagMarkup.Proofs.WellFormed

namespace TagMarkup

theorem Node.allWellFormed_iff {nodes : List Node} :
    AllWellFormed nodes ↔ (∀ node ∈ nodes, node.WellFormed) ∧
      nodes.IsChain fun first second => ¬(first.isText = true ∧ second.isText = true) := by
  induction nodes with
  | nil => simp [AllWellFormed]
  | cons node nodes ih =>
      rw [AllWellFormed, ih, List.forall_mem_cons, List.isChain_cons]
      have hapart : ¬(node.isText = true ∧ nodes.head?.any isText = true) ↔
          ∀ next ∈ nodes.head?, ¬(node.isText = true ∧ next.isText = true) := by
        cases nodes <;> simp
      rw [hapart]
      tauto

namespace Document

theorem descend?_children (node : Node) {path : List Nat} (hpath : path ≠ []) :
    descend? ⟨node.children⟩ path = node.descend? path := by
  cases path with
  | nil => contradiction
  | cons => rfl

theorem wellFormed_children {node : Node} (hwell : node.WellFormed) (hbuilt : node.Built) :
    WellFormed ⟨node.children⟩ ∧ Built ⟨node.children⟩ := by
  cases node with
  | text => exact ⟨.intro, nofun⟩
  | echo => exact ⟨.intro, nofun⟩
  | loop header body => exact ⟨hwell.2, (Node.built_loop_iff.mp hbuilt).2⟩

theorem exists_siblings {d : Document} (hwell : d.WellFormed) (hbuilt : d.Built)
    (path : List Nat) :
    ∃ siblings : List Node, Node.AllWellFormed siblings ∧ (∀ node ∈ siblings, node.Built) ∧
      ∀ index, d.descend? (path ++ [index]) = siblings[index]? := by
  induction path generalizing d with
  | nil =>
      refine ⟨d.children, hwell, hbuilt, fun index => ?_⟩
      rw [List.nil_append, descend?, child?]
      cases d.children[index]? <;> rfl
  | cons first path ih =>
      cases hchild : d.child? first with
      | none =>
          refine ⟨[], .intro, nofun, fun index => ?_⟩
          rw [List.cons_append, descend?, hchild]
          rfl
      | some node =>
          have hmem : node ∈ d.children := List.mem_of_getElem? hchild
          obtain ⟨hwell', hbuilt'⟩ := wellFormed_children
            ((Node.allWellFormed_iff.mp hwell).1 node hmem) (hbuilt node hmem)
          obtain ⟨siblings, hsiblings, hbuilts, hindex⟩ := ih hwell' hbuilt'
          refine ⟨siblings, hsiblings, hbuilts, fun index => ?_⟩
          rw [← hindex, descend?_children node (by simp), List.cons_append, descend?, hchild]
          rfl

theorem wellFormed_descend? {d : Document} (hwell : d.WellFormed) (hbuilt : d.Built)
    {path : List Nat} {node : Node} (h : d.descend? path = some node) :
    node.WellFormed ∧ node.Built := by
  cases path using List.reverseRecOn with
  | nil => contradiction
  | append_singleton path index =>
      obtain ⟨siblings, hsiblings, hbuilts, hindex⟩ := exists_siblings hwell hbuilt path
      rw [hindex] at h
      have hmem := List.mem_of_getElem? h
      exact ⟨(Node.allWellFormed_iff.mp hsiblings).1 node hmem, hbuilts node hmem⟩

theorem not_text_of_descend?_text {d : Document} (hwell : d.WellFormed) (hbuilt : d.Built)
    {path : List Nat} {index : Nat} {content more : Text}
    (h : d.descend? (path ++ [index]) = some (.text content)) :
    d.descend? (path ++ [index + 1]) ≠ some (.text more) := by
  intro hnext
  obtain ⟨siblings, hsiblings, -, hindex⟩ := exists_siblings hwell hbuilt path
  rw [hindex] at h hnext
  obtain ⟨hlt, hfirst⟩ := List.getElem?_eq_some_iff.mp h
  obtain ⟨hlt', hsecond⟩ := List.getElem?_eq_some_iff.mp hnext
  have hapart := List.isChain_iff_getElem.mp (Node.allWellFormed_iff.mp hsiblings).2 index hlt'
  rw [hfirst, hsecond] at hapart
  exact hapart ⟨rfl, rfl⟩

/-- Every node of a parsed document obeys what its kind demands: texts are not empty and do not
follow one another, elements can be written, and the checked construction gives the loops from their
parts. -/
theorem nodes_of_parse {options : ParseOptions} {source : Text} {d : Document}
    (h : parse options source = .ok d) :
    (∀ path content, d.descend? path = some (.text content) → content ≠ []) ∧
    (∀ path index content more, d.descend? (path ++ [index]) = some (.text content) →
      d.descend? (path ++ [index + 1]) ≠ some (.text more)) ∧
    (∀ path elements, d.descend? path = some (.echo elements) →
      ∀ element ∈ elements, element.WellFormed) ∧
    ∀ path header body, d.descend? path = some (.loop header body) →
      (LoopHeader.ofElements? header.name (.number header.start) (.number header.stop)
        (header.step.map .number)).map (fun checked => Node.loop checked body) =
          some (.loop header body) ∧
      ∀ bound ∈ header.bounds, bound.IsFinite := by
  obtain ⟨hwell, hbuilt⟩ := wellFormed_of_parse h
  refine ⟨?_, ?_, ?_, ?_⟩
  · intro path content hnode
    exact (wellFormed_descend? hwell hbuilt hnode).1
  · intro path index content more hnode
    exact not_text_of_descend?_text hwell hbuilt hnode
  · intro path elements hnode
    exact (wellFormed_descend? hwell hbuilt hnode).1
  · intro path header body hnode
    obtain ⟨hloop, hheader⟩ := wellFormed_descend? hwell hbuilt hnode
    have hname := (Node.built_loop_iff.mp hheader).1
    rw [LoopHeader.ofElements?_number hname]
    exact ⟨rfl, hloop.1⟩

theorem nodes_of_parse_unclosed :
    parse ⟨true⟩ ['a', '{', '$', 'F', 'O', 'R', ' ', 'i', ' ', '1', ' ', '2', '$', '}', 'b',
        '{', '$', '=', ' ', '@', 's', ' ', '+', '$', '}'] =
      .ok ⟨[.text ['a'], .loop ⟨['i'], .integer 1, .integer 2, none⟩
        [.text ['b'], .echo [.function ['s'], .operator ['+']]]]⟩ ∧
    (LoopHeader.ofElements? ['i'] (.number (.integer 1)) (.number (.integer 2)) none).map
        (fun checked => Node.loop checked
          [.text ['b'], .echo [.function ['s'], .operator ['+']]]) =
      some (.loop ⟨['i'], .integer 1, .integer 2, none⟩
        [.text ['b'], .echo [.function ['s'], .operator ['+']]]) ∧
    ∀ element ∈ [Element.function ['s'], .operator ['+']], element.WellFormed := by
  have h : parse ⟨true⟩ ['a', '{', '$', 'F', 'O', 'R', ' ', 'i', ' ', '1', ' ', '2', '$', '}', 'b',
      '{', '$', '=', ' ', '@', 's', ' ', '+', '$', '}'] =
        .ok ⟨[.text ['a'], .loop ⟨['i'], .integer 1, .integer 2, none⟩
          [.text ['b'], .echo [.function ['s'], .operator ['+']]]]⟩ := by cbv
  obtain ⟨-, -, hechoes, hloops⟩ := nodes_of_parse h
  exact ⟨h, (hloops [1] _ _ rfl).1, hechoes [1, 1] _ rfl⟩

end Document

end TagMarkup
