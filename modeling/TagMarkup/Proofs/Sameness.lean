import Mathlib
import TagMarkup.Proofs.RoundTrip

namespace TagMarkup

namespace Binary64

theorem eq_iff {v w : Binary64} :
    v = w ↔ v.negative = w.negative ∧ v.magnitude.toNat = w.magnitude.toNat := by
  rw [← BitVec.toNat_eq]
  cases v
  cases w
  simp

theorem toBits_inj {v w : Binary64} : v.toBits = w.toBits ↔ v = w := by
  refine ⟨fun h => ?_, congrArg toBits⟩
  have hlt := v.magnitude.isLt
  have hlt' := w.magnitude.isLt
  simp only [toBits, Nat.shiftLeft_eq] at h
  have hsigns : v.negative.toNat = w.negative.toNat := by omega
  refine eq_iff.mpr ⟨?_, by omega⟩
  revert hsigns
  cases v.negative <;> cases w.negative <;> decide

theorem isFinite_of_render_eq {v w : Binary64} (h : v.render = w.render)
    (hv : v.isFinite = true) : w.isFinite = true := by
  have hnumbers : (Number.double v).render = (Number.double w).render := h
  exact Number.isFinite_of_render_eq hnumbers hv

theorem render_of_infinite {v : Binary64} (hinfinite : v.isFinite = false)
    (hnumber : v.isNaN = false) :
    v.render = if v.negative then ['-', 'i', 'n', 'f'] else ['i', 'n', 'f'] := by
  simp [render, renderWith, hinfinite, hnumber]

theorem isNaN_iff_render_eq {v : Binary64} : v.isNaN = true ↔ v.render = ['N', 'a', 'N'] := by
  constructor
  · intro h
    simp [render, renderWith, h]
  · intro h
    by_contra hnumber
    rw [Bool.not_eq_true] at hnumber
    cases hfinite : v.isFinite with
    | true =>
        have hread := Number.parse?_render_double hfinite
        rw [h] at hread
        contradiction
    | false =>
        rw [render_of_infinite hfinite hnumber] at h
        split at h <;> simp at h

theorem eq_of_infinite {v w : Binary64} (hv : v.isFinite = false ∧ v.isNaN = false)
    (hw : w.isFinite = false ∧ w.isNaN = false) (h : v.render = w.render) : v = w := by
  rw [render_of_infinite hv.1 hv.2, render_of_infinite hw.1 hw.2] at h
  refine eq_iff.mpr ⟨?_, ?_⟩
  · cases hsign : v.negative <;> cases hsign' : w.negative <;> simp [hsign, hsign'] at h ⊢
  · simp only [isFinite, isNaN, decide_eq_false_iff_not] at hv hw
    omega

/-- Values with one text are one value, unless neither is a number. -/
theorem render_eq_iff {v w : Binary64} :
    v.render = w.render ↔ v = w ∨ v.isNaN = true ∧ w.isNaN = true := by
  constructor
  · intro h
    have hfinite : v.isFinite = w.isFinite :=
      Bool.eq_iff_iff.mpr ⟨isFinite_of_render_eq h, isFinite_of_render_eq h.symm⟩
    have hnan : v.isNaN = w.isNaN := by
      rw [Bool.eq_iff_iff, isNaN_iff_render_eq, isNaN_iff_render_eq, h]
    cases hv : v.isFinite with
    | true =>
        have hread := Number.parse?_render_double hv
        rw [h, Number.parse?_render_double (hfinite.symm.trans hv)] at hread
        exact .inl (Number.double.inj (Option.some.inj hread)).symm
    | false =>
        cases hnumber : v.isNaN with
        | true => exact .inr ⟨rfl, hnan.symm.trans hnumber⟩
        | false =>
            exact .inl (eq_of_infinite ⟨hv, hnumber⟩
              ⟨hfinite.symm.trans hv, hnan.symm.trans hnumber⟩ h)
  · rintro (rfl | ⟨hv, hw⟩)
    · rfl
    · rw [isNaN_iff_render_eq.mp hv, isNaN_iff_render_eq.mp hw]

end Binary64

theorem quoteLiteral_inj {s t : Text} (h : quoteLiteral s = quoteLiteral t) : s = t := by
  have hread := (literalString_escapeLiteral s).scanLiteral_eq []
  have hcontents : s.flatMap escapeLiteralChar ++ ['"'] = t.flatMap escapeLiteralChar ++ ['"'] :=
    (List.cons_eq_cons.mp h).2
  rw [hcontents, (literalString_escapeLiteral t).scanLiteral_eq []] at hread
  exact (congrArg Scan.text hread).symm

namespace Element

/-- Elements of one kind that hold the same: one integer, one double bit by bit or no number in
either, one text. -/
inductive SamePayload : Element → Element → Prop
  | integer (value : Int64) :
      SamePayload (.number (.integer value)) (.number (.integer value))
  | double {v w : Binary64} (h : v.toBits = w.toBits ∨ v.isNaN = true ∧ w.isNaN = true) :
      SamePayload (.number (.double v)) (.number (.double w))
  | string (content : Text) : SamePayload (.string content) (.string content)
  | variable (name : Text) : SamePayload (.variable name) (.variable name)
  | function (name : Text) : SamePayload (.function name) (.function name)
  | operator (symbol : Text) : SamePayload (.operator symbol) (.operator symbol)

theorem SamePayload.beq {a b : Element} (h : a.SamePayload b) : (a == b) = true := by
  cases h with
  | double h =>
      rw [Binary64.toBits_inj] at h
      exact beq_iff.mpr ⟨rfl, Binary64.render_eq_iff.mpr h⟩
  | _ => exact beq_self_eq_true _

theorem samePayload_of_beq {a b : Element} (h : (a == b) = true) : a.SamePayload b := by
  obtain ⟨hkind, hrender⟩ := beq_iff.mp h
  induction a, b, hkind using sameKind_cases with
  | integer v w =>
      obtain rfl := Int64.toInt_inj.mp (Text.ofInt_inj hrender)
      exact .integer v
  | double v w =>
      refine .double ?_
      rw [Binary64.toBits_inj]
      exact Binary64.render_eq_iff.mp hrender
  | string s t =>
      obtain rfl := quoteLiteral_inj hrender
      exact .string s
  | «variable» s t =>
      obtain rfl : s = t := hrender
      exact .variable s
  | function s t =>
      obtain rfl : s = t := (List.cons_eq_cons.mp hrender).2
      exact .function s
  | operator s t =>
      obtain rfl : s = t := hrender
      exact .operator s

theorem beq_equivalence : Equivalence fun a b : Element => (a == b) = true where
  refl := beq_self_eq_true
  symm := by
    intro a b h
    obtain ⟨hkind, hrender⟩ := beq_iff.mp h
    exact beq_iff.mpr ⟨hkind.symm, hrender.symm⟩
  trans := by
    intro a b c h h'
    obtain ⟨hkind, hrender⟩ := beq_iff.mp h
    obtain ⟨hkind', hrender'⟩ := beq_iff.mp h'
    exact beq_iff.mpr ⟨hkind.trans hkind', hrender.trans hrender'⟩

theorem flatMap_render_eq_of_beq {as bs : List Element} (h : (as == bs) = true) :
    as.flatMap (fun e => ' ' :: e.render) = bs.flatMap (fun e => ' ' :: e.render) := by
  induction as generalizing bs with
  | nil =>
      cases bs with
      | nil => rfl
      | cons => contradiction
  | cons a as ih =>
      cases bs with
      | nil => contradiction
      | cons b bs =>
          rw [List.cons_beq_cons, Bool.and_eq_true] at h
          rw [List.flatMap_cons, List.flatMap_cons, (beq_iff.mp h.1).2, ih h.2]

end Element

/-! Documents that are the same have one canonical text. -/

theorem LoopHeader.beq_bounds {a b : LoopHeader} (h : (a == b) = true) :
    a.name = b.name ∧ (a.bounds.map Element.number == b.bounds.map Element.number) = true := by
  obtain ⟨name, start, stop, step⟩ := a
  obtain ⟨name', start', stop', step'⟩ := b
  change same _ _ = true at h
  simp only [same, Bool.and_eq_true, beq_iff_eq] at h
  obtain ⟨⟨⟨hname, hstart⟩, hstop⟩, hstep⟩ := h
  refine ⟨hname, ?_⟩
  simp only [bounds, List.map_cons, List.cons_beq_cons, hstart, hstop, Bool.true_and]
  cases step with
  | none =>
      cases step' with
      | none => rfl
      | some => contradiction
  | some step =>
      cases step' with
      | none => contradiction
      | some step' =>
          have hlast : (Element.number step == Element.number step') = true := hstep
          simp [hlast]

theorem LoopHeader.render_eq_of_beq {a b : LoopHeader} (h : (a == b) = true) :
    a.render = b.render := by
  obtain ⟨hname, hbounds⟩ := beq_bounds h
  have htexts := Element.flatMap_render_eq_of_beq hbounds
  rw [List.flatMap_map, List.flatMap_map] at htexts
  have hrender : a.bounds.flatMap (fun n => ' ' :: n.render) =
      b.bounds.flatMap (fun n => ' ' :: n.render) := htexts
  rw [render, render, hname, hrender]

mutual

theorem Node.renderBefore_eq_of_same (rest : Text) :
    (a b : Node) → (h : a.same b = true) → a.renderBefore rest = b.renderBefore rest
  | .text content, .text other, h => by
      obtain rfl : content = other := beq_iff_eq.mp h
      rfl
  | .echo elements, .echo others, h => by
      rw [Node.renderBefore, Node.renderBefore, renderEcho, renderEcho,
        Element.flatMap_render_eq_of_beq h]
  | .loop header body, .loop other others, h => by
      rw [Node.same, Bool.and_eq_true] at h
      rw [Node.renderBefore, Node.renderBefore, LoopHeader.render_eq_of_beq h.1,
        Node.renderAllBefore_eq_of_sameAll _ body others h.2]

theorem Node.renderAllBefore_eq_of_sameAll (rest : Text) :
    (as bs : List Node) → (h : Node.sameAll as bs = true) →
      Node.renderAllBefore rest as = Node.renderAllBefore rest bs
  | [], [], _ => rfl
  | a :: as, b :: bs, h => by
      rw [Node.sameAll, Bool.and_eq_true] at h
      rw [Node.renderAllBefore, Node.renderAllBefore,
        Node.renderAllBefore_eq_of_sameAll rest as bs h.2, Node.renderBefore_eq_of_same _ a b h.1]

end

namespace Document

theorem render_eq_of_beq {d e : Document} (h : (d == e) = true) : d.render = e.render :=
  Node.renderAllBefore_eq_of_sameAll [] d.children e.children
    ((Node.beq_eq_sameAll d.children e.children).symm.trans h)

/-- A parsed document is told by its canonical text, since it is read back. -/
theorem eq_of_render_eq {options options' : ParseOptions} {source source' : Text} {d e : Document}
    (hd : parse options source = .ok d) (he : parse options' source' = .ok e)
    (h : d.render = e.render) : d = e := by
  obtain ⟨hwell, hbuilt⟩ := wellFormed_of_parse hd
  obtain ⟨hwell', hbuilt'⟩ := wellFormed_of_parse he
  have hread := parse_render hwell hbuilt
  rw [h, parse_render hwell' hbuilt'] at hread
  exact (Except.ok.inj hread).symm

/-- Elements are the same exactly if they hold the same, which makes sameness an equivalence;
documents that are the same have one canonical text, and parsed documents with one canonical text
are the same. -/
theorem same_iff_samePayload :
    (∀ a b : Element, (a == b) = true ↔ a.SamePayload b) ∧
    (Equivalence fun a b : Element => (a == b) = true) ∧
    (∀ d e : Document, (d == e) = true → d.render = e.render) ∧
    ∀ options options' source source' d e, parse options source = .ok d →
      parse options' source' = .ok e → d.render = e.render → (d == e) = true := by
  refine ⟨fun a b => ⟨Element.samePayload_of_beq, Element.SamePayload.beq⟩,
    Element.beq_equivalence, fun d e => render_eq_of_beq, ?_⟩
  intro options options' source source' d e hd he h
  obtain rfl := eq_of_render_eq hd he h
  exact beq_self_eq_true d

/-- Values that are not numbers, with other signs and other bits, and a string in two spellings. -/
theorem same_iff_samePayload_spellings :
    (Element.number (.double ⟨true, 0x7FF8000000000000⟩) ==
      .number (.double ⟨false, 0x7FF0000000000001⟩)) = true ∧
    parse {} ['{', '$', '=', '"', '\t', '"', '$', '}'] = .ok ⟨[.echo [.string ['\t']]]⟩ ∧
    parse {} ['{', '$', '=', ' ', '"', '\\', 't', '"', '$', '}'] =
      .ok ⟨[.echo [.string ['\t']]]⟩ ∧
    ((⟨[.echo [.string ['\t']]]⟩ : Document) == ⟨[.echo [.string ['\t']]]⟩) = true := by
  have hplain : parse {} ['{', '$', '=', '"', '\t', '"', '$', '}'] =
      .ok ⟨[.echo [.string ['\t']]]⟩ := by
    cbv
  have hescaped : parse {} ['{', '$', '=', ' ', '"', '\\', 't', '"', '$', '}'] =
      .ok ⟨[.echo [.string ['\t']]]⟩ := by
    cbv
  obtain ⟨hpayload, -, -, htext⟩ := same_iff_samePayload
  exact ⟨(hpayload _ _).mpr (.double (.inr ⟨by decide, by decide⟩)), hplain, hescaped,
    htext _ _ _ _ _ _ hplain hescaped rfl⟩

end Document

end TagMarkup
