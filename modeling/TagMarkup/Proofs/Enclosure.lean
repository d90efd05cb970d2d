import Mathlib
import TagMarkup.Proofs.Relocation
import TagMarkup.Proofs.Rendering
import TagMarkup.Proofs.Seam

namespace TagMarkup

/-- A source between the canonical tags of a loop. -/
def LoopHeader.enclose (header : LoopHeader) (source : Text) : Text :=
  header.render ++ source ++ renderEnd

/-- A document as the body of a loop. -/
def Document.within (header : LoopHeader) (d : Document) : Document :=
  ⟨[.loop header d.children]⟩

/-! Linearisations at other offsets. -/

theorem LoopHeader.Opens.shift {header : LoopHeader} {tokens : List Token}
    (h : header.Opens tokens) (n : Nat) : header.Opens (tokens.map (Token.shift n)) := by
  cases h with
  | @intro mark tag subject close bounds hmark htag hsubject hname hbounds hclose =>
      have hbounds' : List.Forall₂ Token.Bounds (bounds.map (Token.shift n)) header.bounds :=
        List.forall₂_map_left_iff.mpr (hbounds.imp fun _ _ hbound => hbound.shift n)
      have hopens : header.Opens (mark.shift n :: tag.shift n :: subject.shift n ::
          (bounds.map (Token.shift n) ++ [close.shift n])) :=
        .intro hmark (htag.shift n) (hsubject.shift n) hname hbounds' hclose
      simpa using hopens

theorem EndsLoop.shift {tokens : List Token} (h : EndsLoop tokens) (n : Nat) :
    EndsLoop (tokens.map (Token.shift n)) := by
  cases h with
  | intro hmark htag hclose => exact .intro hmark (htag.shift n) hclose

mutual

theorem Node.Linearises.shift (n : Nat) :
    (node : Node) → {tokens : List Token} → (h : node.Linearises tokens) →
      node.Linearises (tokens.map (Token.shift n))
  | .text content, _, h => by
      cases h with
      | text _ offset => exact .text content (offset + n)
  | .echo elements, _, h => by
      cases h with
      | @echo _ mark tag close tokens hmark htag helements hclose =>
          have helements' : List.Forall₂ Token.Denotes (tokens.map (Token.shift n)) elements :=
            List.forall₂_map_left_iff.mpr (helements.imp fun _ _ helement => helement.shift n)
          have hecho : (Node.echo elements).Linearises (mark.shift n :: tag.shift n ::
              (tokens.map (Token.shift n) ++ [close.shift n])) :=
            .echo hmark (htag.shift n) helements' hclose
          simpa using hecho
  | .loop header body, _, h => by
      cases h with
      | loop hopening hinner hending =>
          rw [List.map_append, List.map_append]
          exact .loop (hopening.shift n) (Node.LinearisesAll.shift n body hinner)
            (hending.shift n)

theorem Node.LinearisesAll.shift (n : Nat) :
    (nodes : List Node) → {tokens : List Token} → (h : Node.LinearisesAll nodes tokens) →
      Node.LinearisesAll nodes (tokens.map (Token.shift n))
  | [], _, h => by
      cases h with
      | nil => exact .nil
  | node :: nodes, _, h => by
      cases h with
      | cons hnode hnodes =>
          rw [List.map_append]
          exact .cons (Node.Linearises.shift n node hnode)
            (Node.LinearisesAll.shift n nodes hnodes)

end

namespace Document

/-- Before a tag a source with a document yields the tokens of that document, wherever it stands. -/
theorem yields_of_parse {source : Text} {d : Document} (h : parse {} source = .ok d) {after : Text}
    (hafter : ['{', '$'] <+: after) :
    Yields .outsideTag (source ++ after) (Node.LinearisesAll d.children) .outsideTag after := by
  obtain ⟨front, last, missing, htokens, -, hlinearises, hmissing⟩ := linearises_of_parse h
  obtain rfl := hmissing rfl
  rw [List.replicate_zero, List.flatten_nil, List.append_nil] at hlinearises
  rw [tokenize_eq, collect_eq_ok_iff] at htokens
  intro offset
  have hitems : itemsFrom .outsideTag offset source =
      (front.map (Token.shift offset)).map .ok ++ [.ok (last.shift offset)] := by
    have hshift := itemsFrom_shift offset .outsideTag 0 source
    rw [Nat.zero_add] at hshift
    simp [hshift, htokens]
  exact ⟨_, _, hlinearises.shift offset, itemsFrom_append_of_opensTag hitems hafter⟩

theorem yields_within {header : LoopHeader} (hname : isValidName header.name = true)
    (hbounds : ∀ bound ∈ header.bounds, bound.IsFinite) {source : Text} {d : Document}
    (h : parse {} source = .ok d) :
    Yields .outsideTag (header.enclose source) (Node.LinearisesAll (d.within header).children)
      .outsideTag [] := by
  have hopens : ['{', '$'] <+: renderEnd := ⟨_, rfl⟩
  have hbody := yields_of_parse h hopens
  rw [← List.append_nil renderEnd] at hbody
  rw [LoopHeader.enclose, ← List.append_nil renderEnd, List.append_assoc]
  exact ((yields_header hname hbounds _).loop hbody).imp fun _ => .singleton

/-- Between the tags of a loop a source is parsed to the nodes that it is parsed to on its own, and
so it is between the tags of any number of loops inside one another. -/
theorem parse_enclose {source : Text} {d : Document} (h : parse {} source = .ok d) :
    (∀ header : LoopHeader, isValidName header.name = true →
      (∀ bound ∈ header.bounds, bound.IsFinite) →
      parse {} (header.enclose source) = .ok ⟨[.loop header d.children]⟩) ∧
    ∀ headers : List LoopHeader, (∀ header ∈ headers, isValidName header.name = true) →
      (∀ header ∈ headers, ∀ bound ∈ header.bounds, bound.IsFinite) →
      parse {} (headers.foldr LoopHeader.enclose source) = .ok (headers.foldr within d) := by
  refine ⟨fun header hname hbounds => parse_of_yields (yields_within hname hbounds h), ?_⟩
  intro headers hnames hbounds
  induction headers with
  | nil => exact h
  | cons header headers ih =>
      rw [List.forall_mem_cons] at hnames hbounds
      exact parse_of_yields
        (yields_within hnames.1 hbounds.1 (ih hnames.2 hbounds.2))

/-- A body that ends in an opening brace, with the end of the inner loop right after it. -/
theorem parse_enclose_brace :
    parse {} ['\\', '\\', '{', '$', '=', '@', 'f', '"', 'x', '"', '$', '}', '{'] =
      .ok ⟨[.text ['\\'], .echo [.function ['f'], .string ['x']], .text ['{']]⟩ ∧
    parse {} (List.foldr LoopHeader.enclose
        ['\\', '\\', '{', '$', '=', '@', 'f', '"', 'x', '"', '$', '}', '{']
        [⟨['i'], .integer (-1), .integer 2, none⟩,
          ⟨['j'], .integer 0, .double ⟨true, 0⟩, some (.integer 3)⟩]) =
      .ok (List.foldr within
        ⟨[.text ['\\'], .echo [.function ['f'], .string ['x']], .text ['{']]⟩
        [⟨['i'], .integer (-1), .integer 2, none⟩,
          ⟨['j'], .integer 0, .double ⟨true, 0⟩, some (.integer 3)⟩]) := by
  have hparse : parse {} ['\\', '\\', '{', '$', '=', '@', 'f', '"', 'x', '"', '$', '}', '{'] =
      .ok ⟨[.text ['\\'], .echo [.function ['f'], .string ['x']], .text ['{']]⟩ := by
    cbv
  have hzero : Binary64.isFinite ⟨true, 0⟩ = true := by decide
  refine ⟨hparse, (parse_enclose hparse).2 _ (by decide) ?_⟩
  simpa [LoopHeader.bounds, Number.IsFinite] using hzero

end Document

end TagMarkup
