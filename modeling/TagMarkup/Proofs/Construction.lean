import Mathlib
import TagMarkup.Proofs.Nodes
import TagMarkup.Proofs.RoundTrip

namespace TagMarkup

namespace Document

/-- The lists of siblings in a document: its children, and the children of each node below it. -/
inductive HasSiblings (d : Document) : List Node → Prop
  | top : d.HasSiblings d.children
  | below {path : List Nat} {node : Node} (h : d.descend? path = some node) :
      d.HasSiblings node.children

theorem HasSiblings.wellFormed {d : Document} {body : List Node} (h : d.HasSiblings body)
    (hwell : d.WellFormed) (hbuilt : d.Built) : WellFormed ⟨body⟩ ∧ Built ⟨body⟩ := by
  cases h with
  | top => exact ⟨hwell, hbuilt⟩
  | below hnode =>
      obtain ⟨hwell', hbuilt'⟩ := wellFormed_descend? hwell hbuilt hnode
      exact wellFormed_children hwell' hbuilt'

theorem wellFormed_singleton_iff {node : Node} : WellFormed ⟨[node]⟩ ↔ node.WellFormed := by
  simp [WellFormed, Node.AllWellFormed]

theorem built_singleton_iff {node : Node} : Built ⟨[node]⟩ ↔ node.Built :=
  List.forall_mem_singleton

/-- A loop that the construction gives, around children of a parsed document, survives rendering and
parsing exactly if all its bounds are finite. -/
theorem roundTrips_loop_iff_isFinite {options : ParseOptions} {source : Text} {d : Document}
    {body : List Node} {name : Text} {start stop : Element} {step : Option Element}
    {header : LoopHeader} (hparse : parse options source = .ok d) (hbody : d.HasSiblings body)
    (hheader : LoopHeader.ofElements? name start stop step = some header) :
    roundTrips ⟨[.loop header body]⟩ = true ↔ ∀ bound ∈ header.bounds, bound.IsFinite := by
  obtain ⟨hwell, hbuilt⟩ := wellFormed_of_parse hparse
  obtain ⟨hwell, hbuilt⟩ := hbody.wellFormed hwell hbuilt
  rw [roundTrips_eq_true_iff]
  constructor
  · rintro ⟨reparsed, hreparsed, hsame⟩
    have hloop := wellFormed_of_beq hsame (wellFormed_of_parse hreparsed).1
    exact (wellFormed_singleton_iff.mp hloop).1
  · intro hfinite
    have hloop : WellFormed ⟨[.loop header body]⟩ := wellFormed_singleton_iff.mpr ⟨hfinite, hwell⟩
    have hmade : Built ⟨[.loop header body]⟩ := built_singleton_iff.mpr (.loop hheader hbuilt)
    exact ⟨_, parse_render hloop hmade, beq_self_eq_true _⟩

theorem roundTrips_loop_iff_isFinite_nested :
    parse {} ['{', '$', 'F', 'O', 'R', ' ', 'i', ' ', '1', ' ', '2', '$', '}', 'x', '{', '$', 'E',
        'N', 'D', '$', '}'] =
      .ok ⟨[.loop ⟨['i'], .integer 1, .integer 2, none⟩ [.text ['x']]]⟩ ∧
    LoopHeader.ofElements? ['j'] (.number (.integer (-9223372036854775808)))
        (.number (.double ⟨true, 0⟩)) (some (.number (.integer 3))) =
      some ⟨['j'], .integer (-9223372036854775808), .double ⟨true, 0⟩, some (.integer 3)⟩ ∧
    roundTrips ⟨[.loop ⟨['j'], .integer (-9223372036854775808), .double ⟨true, 0⟩,
        some (.integer 3)⟩ [.text ['x']]]⟩ = true := by
  have hparse : parse {} ['{', '$', 'F', 'O', 'R', ' ', 'i', ' ', '1', ' ', '2', '$', '}', 'x', '{',
      '$', 'E', 'N', 'D', '$', '}'] =
        .ok ⟨[.loop ⟨['i'], .integer 1, .integer 2, none⟩ [.text ['x']]]⟩ := by
    cbv
  have hheader : LoopHeader.ofElements? ['j'] (.number (.integer (-9223372036854775808)))
      (.number (.double ⟨true, 0⟩)) (some (.number (.integer 3))) = some _ := rfl
  have hnode : descend? ⟨[.loop ⟨['i'], .integer 1, .integer 2, none⟩ [.text ['x']]]⟩ [0] =
      some (.loop ⟨['i'], .integer 1, .integer 2, none⟩ [.text ['x']]) := rfl
  have hzero : (Number.double ⟨true, 0⟩).IsFinite := by
    change Binary64.isFinite _ = true
    decide
  refine ⟨hparse, hheader, (roundTrips_loop_iff_isFinite hparse (.below hnode) hheader).mpr ?_⟩
  simp only [LoopHeader.bounds, Option.toList_some, List.forall_mem_cons]
  exact ⟨.intro, hzero, .intro, by simp⟩

/-- Infinity is a number, so the construction takes it for a bound; its text is a name. -/
theorem roundTrips_infinite_bound :
    parse {} [] = .ok ⟨[]⟩ ∧ HasSiblings ⟨[]⟩ [] ∧
    LoopHeader.ofElements? ['i'] (.number (.double ⟨false, 0x7FF0000000000000⟩))
        (.number (.integer 1)) none =
      some ⟨['i'], .double ⟨false, 0x7FF0000000000000⟩, .integer 1, none⟩ ∧
    roundTrips ⟨[.loop ⟨['i'], .double ⟨false, 0x7FF0000000000000⟩, .integer 1, none⟩ []]⟩ =
      false :=
  ⟨by cbv, .top, rfl, by cbv⟩

end Document

end TagMarkup
