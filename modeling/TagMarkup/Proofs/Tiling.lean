import Mathlib.Data.Set.Subsingleton
import TagMarkup.Proofs.Stream

namespace TagMarkup

/-- A token of a source, the characters that spell it, and the gap between these and the next
token. -/
structure Piece where
  token : Token
  lexeme : Text
  gap : Text

namespace Piece

def text (p : Piece) : Text :=
  p.lexeme ++ p.gap

def source (pieces : List Piece) : Text :=
  pieces.flatMap text

def modeAfter (m : Mode) (pieces : List Piece) : Mode :=
  pieces.foldl (fun m p => m.after p.token.kind) m

/-- How a piece fits into its place, with `after` as the text of the pieces after it. -/
structure Fits (p : Piece) (m : Mode) (offset : Nat) (after : Text) : Prop where
  offset_eq : p.token.offset = offset
  admits : m.Admits p.token.kind
  spelling : Spelling p.token.kind p.token.value p.lexeme (p.gap ++ after)
  blank : Blank p.gap
  gap_outside : m.after p.token.kind = .outsideTag → p.gap = []

@[simp] theorem source_nil : source [] = [] := rfl

@[simp] theorem source_cons (p : Piece) (pieces : List Piece) :
    source (p :: pieces) = p.lexeme ++ (p.gap ++ source pieces) := by
  simp [source, text]

@[simp] theorem source_append (front back : List Piece) :
    source (front ++ back) = source front ++ source back := by
  simp [source]

theorem Fits.endOfInput {p : Piece} {m : Mode} {offset : Nat} {after : Text}
    (h : p.Fits m offset after) (hkind : p.token.kind = .endOfInput) :
    p = ⟨⟨.endOfInput, none, offset⟩, [], []⟩ ∧ m = .outsideTag ∧ after = [] := by
  obtain ⟨⟨kind, value, _⟩, lexeme, gap⟩ := p
  obtain ⟨rfl, hadmits, hspelling, -, hgap⟩ := h
  dsimp only at hkind hadmits hspelling hgap
  subst hkind
  cases m with
  | insideTag => simp [Mode.Admits] at hadmits
  | outsideTag =>
      obtain rfl : gap = [] := hgap rfl
      rw [List.nil_append] at hspelling
      cases hspelling
      exact ⟨rfl, rfl, rfl⟩

end Piece

/-- A source cut into pieces: nothing is lost, every piece fits into its place, and the end of the
input is the last token and no other. -/
structure Tiling (source : Text) (pieces : List Piece) : Prop where
  covers : Piece.source pieces = source
  fits : ∀ before p after, pieces = before ++ p :: after →
    p.Fits (Piece.modeAfter .outsideTag before) (Piece.source before).length (Piece.source after)
  ends : ∃ front last, pieces = front ++ [last] ∧
    last.token = ⟨.endOfInput, none, source.length⟩ ∧
    ∀ p ∈ front, p.token.kind ≠ .endOfInput

inductive TilesFrom : Mode → Nat → List Piece → Prop
  | last {m : Mode} {offset : Nat} {p : Piece} (hfits : p.Fits m offset [])
      (hkind : p.token.kind = .endOfInput) : TilesFrom m offset [p]
  | cons {m : Mode} {offset : Nat} {p : Piece} {pieces : List Piece}
      (hfits : p.Fits m offset (Piece.source pieces)) (hkind : p.token.kind ≠ .endOfInput)
      (hrest : TilesFrom (m.after p.token.kind) (offset + p.text.length) pieces) :
      TilesFrom m offset (p :: pieces)

namespace TilesFrom

theorem fits {m : Mode} {offset : Nat} {pieces : List Piece} (h : TilesFrom m offset pieces)
    {before : List Piece} {p : Piece} {after : List Piece}
    (hsplit : pieces = before ++ p :: after) :
    p.Fits (Piece.modeAfter m before) (offset + (Piece.source before).length)
      (Piece.source after) := by
  induction h generalizing before with
  | last hfits hkind =>
      cases before with
      | nil =>
          obtain ⟨rfl, rfl⟩ := List.cons_eq_cons.mp hsplit
          exact hfits
      | cons q before => simp at hsplit
  | @cons m offset q pieces hfits hkind hrest ih =>
      cases before with
      | nil =>
          obtain ⟨rfl, rfl⟩ := List.cons_eq_cons.mp hsplit
          exact hfits
      | cons r before =>
          obtain ⟨rfl, hpieces⟩ := List.cons_eq_cons.mp hsplit
          have hlength : offset + (Piece.source (q :: before)).length =
              offset + q.text.length + (Piece.source before).length := by
            simp [Piece.text, Nat.add_assoc]
          rw [hlength]
          exact ih hpieces

theorem ends {m : Mode} {offset : Nat} {pieces : List Piece} (h : TilesFrom m offset pieces) :
    ∃ front last, pieces = front ++ [last] ∧ last.token.kind = .endOfInput ∧
      ∀ p ∈ front, p.token.kind ≠ .endOfInput := by
  induction h with
  | @last m offset p hfits hkind => exact ⟨[], p, rfl, hkind, by simp⟩
  | @cons m offset p pieces hfits hkind hrest ih =>
      obtain ⟨front, last, rfl, hlast, hfront⟩ := ih
      refine ⟨p :: front, last, rfl, hlast, ?_⟩
      intro q hq
      obtain rfl | hq := List.mem_cons.mp hq
      · exact hkind
      · exact hfront q hq

theorem of_fits {m : Mode} {offset : Nat} {pieces : List Piece}
    (hfits : ∀ before p after, pieces = before ++ p :: after →
      p.Fits (Piece.modeAfter m before) (offset + (Piece.source before).length)
        (Piece.source after))
    (hends : ∃ front last, pieces = front ++ [last] ∧ last.token.kind = .endOfInput ∧
      ∀ p ∈ front, p.token.kind ≠ .endOfInput) : TilesFrom m offset pieces := by
  obtain ⟨front, last, rfl, hlast, hfront⟩ := hends
  induction front generalizing m offset with
  | nil => exact .last (hfits [] last [] rfl) hlast
  | cons p front ih =>
      refine .cons (hfits [] p _ rfl) (hfront p (by simp))
        (ih ?_ fun q hq => hfront q (by simp [hq]))
      intro before q after hsplit
      have hq := hfits (p :: before) q after (congrArg (p :: ·) hsplit)
      have hlength : offset + (Piece.source (p :: before)).length =
          offset + p.text.length + (Piece.source before).length := by
        simp [Piece.text, Nat.add_assoc]
      rwa [hlength] at hq

theorem itemsFrom_eq {m : Mode} {offset : Nat} {pieces : List Piece}
    (h : TilesFrom m offset pieces) :
    itemsFrom m offset (Piece.source pieces) = (pieces.map Piece.token).map .ok := by
  induction h with
  | last hfits hkind =>
      obtain ⟨rfl, rfl, -⟩ := hfits.endOfInput hkind
      exact itemsFrom_nil _
  | @cons m offset p pieces hfits hkind hrest ih =>
      have htoken : (⟨p.token.kind, p.token.value, offset⟩ : Token) = p.token := by
        rw [← hfits.offset_eq]
      have hgap : itemsFrom (m.after p.token.kind) (offset + p.lexeme.length)
          (p.gap ++ Piece.source pieces) =
          itemsFrom (m.after p.token.kind) (offset + p.text.length) (Piece.source pieces) := by
        cases hmode : m.after p.token.kind with
        | outsideTag => simp [Piece.text, hfits.gap_outside hmode]
        | insideTag =>
            rw [itemsFrom_gap hfits.blank, Piece.text, List.length_append, Nat.add_assoc]
      rw [Piece.source_cons, itemsFrom_of_spelling offset hfits.spelling hfits.admits hkind, htoken,
        hgap, ih]
      rfl

theorem of_itemsFrom {tokens : List Token} {m : Mode} {offset : Nat} {source : Text}
    (h : itemsFrom m offset source = tokens.map .ok) :
    ∃ gap pieces, source = gap ++ Piece.source pieces ∧ Blank gap ∧
      (m = .outsideTag → gap = []) ∧ TilesFrom m (offset + gap.length) pieces ∧
      pieces.map Piece.token = tokens := by
  induction tokens generalizing m offset source with
  | nil => exact absurd h (itemsFrom_ne_nil m offset source)
  | cons t tokens ih =>
      obtain ⟨hread, htokens⟩ := itemsFrom_eq_cons h
      obtain ⟨gap, lexeme, hsource, hblank, hgap, hoffset, hwidth, hadmits, hspelling⟩ :=
        Lexeme.exists_spelling_of_read hread
      by_cases hkind : t.kind = .endOfInput
      · obtain rfl : tokens = [] := by simpa [hkind] using htokens
        rw [hkind] at hspelling
        have hrest := hspelling.endOfInput_after
        refine ⟨gap, [⟨t, lexeme, []⟩], by simpa [hrest] using hsource, hblank, hgap,
          .last ?_ hkind, rfl⟩
        refine ⟨hoffset, hadmits, ?_, .nil, fun _ => rfl⟩
        rw [hrest] at hspelling
        rwa [hkind]
      · rw [if_neg hkind] at htokens
        obtain ⟨gap', pieces, hsource', hblank', hgap', htiles, rfl⟩ := ih htokens.symm
        rw [hsource'] at hsource hspelling
        refine ⟨gap, ⟨t, lexeme, gap'⟩ :: pieces, by simpa using hsource, hblank, hgap, .cons
          ⟨hoffset, hadmits, hspelling, hblank', hgap'⟩ hkind ?_, rfl⟩
        rw [hwidth] at htiles
        simpa [Piece.text, Nat.add_assoc] using htiles

theorem exists_head {m : Mode} {offset : Nat} {pieces : List Piece}
    (h : TilesFrom m offset pieces) : ∃ p rest, pieces = p :: rest ∧ p.token.offset = offset := by
  cases h with
  | last hfits hkind => exact ⟨_, _, rfl, hfits.offset_eq⟩
  | cons hfits hkind hrest => exact ⟨_, _, rfl, hfits.offset_eq⟩

theorem map_token_eq_of_source_eq {m : Mode} {offset : Nat} {pieces others : List Piece}
    (h : TilesFrom m offset pieces) (hother : TilesFrom m offset others)
    (hsource : Piece.source pieces = Piece.source others) :
    pieces.map Piece.token = others.map Piece.token := by
  have hitems := h.itemsFrom_eq
  rw [hsource, hother.itemsFrom_eq] at hitems
  exact (List.map_inj_right fun _ _ => Except.ok.inj).mp hitems.symm

theorem eq_of_source_eq {m : Mode} {offset : Nat} {pieces others : List Piece}
    (h : TilesFrom m offset pieces) (hother : TilesFrom m offset others)
    (hsource : Piece.source pieces = Piece.source others) : pieces = others := by
  have htokens := h.map_token_eq_of_source_eq hother hsource
  induction h generalizing others with
  | @last m offset p hfits hkind =>
      cases hother with
      | last hfits' hkind' =>
          rw [(hfits.endOfInput hkind).1, (hfits'.endOfInput hkind').1]
      | cons hfits' hkind' hrest' =>
          rw [(List.cons_eq_cons.mp htokens).1] at hkind
          contradiction
  | @cons m offset p pieces hfits hkind hrest ih =>
      cases hother with
      | last hfits' hkind' =>
          rw [← (List.cons_eq_cons.mp htokens).1] at hkind'
          contradiction
      | @cons _ _ q others hfits' hkind' hrest' =>
          obtain ⟨htoken, htail⟩ := List.cons_eq_cons.mp htokens
          rw [Piece.source_cons, Piece.source_cons] at hsource
          obtain ⟨-, -, hlexeme, hafter⟩ :=
            hfits.spelling.unique hfits.admits hfits'.spelling hfits'.admits hsource
          have hgap : p.gap = q.gap := by
            obtain ⟨r, rest, rfl, hoffset⟩ := hrest.exists_head
            obtain ⟨r', rest', rfl, hoffset'⟩ := hrest'.exists_head
            rw [(List.cons_eq_cons.mp htail).1, hoffset'] at hoffset
            simp only [Piece.text, List.length_append, hlexeme] at hoffset
            exact List.append_inj_left hafter (by omega)
          have hpiece : p = q := by
            cases p
            cases q
            simp_all
          subst hpiece
          rw [ih hrest' (List.append_cancel_left hafter) htail]

end TilesFrom

theorem tiling_iff_tilesFrom {source : Text} {pieces : List Piece} :
    Tiling source pieces ↔ Piece.source pieces = source ∧ TilesFrom .outsideTag 0 pieces := by
  constructor
  · intro h
    obtain ⟨front, last, hpieces, hlast, hfront⟩ := h.ends
    refine ⟨h.covers, .of_fits ?_ ⟨front, last, hpieces, by rw [hlast], hfront⟩⟩
    simpa only [Nat.zero_add] using h.fits
  · rintro ⟨rfl, h⟩
    refine ⟨rfl, fun before p after hsplit => ?_, ?_⟩
    · simpa only [Nat.zero_add] using h.fits hsplit
    · obtain ⟨front, last, rfl, hlast, hfront⟩ := h.ends
      obtain ⟨hpiece, -, -⟩ := (h.fits rfl).endOfInput hlast
      refine ⟨front, last, rfl, ?_, hfront⟩
      rw [Piece.source_append, hpiece]
      simp

theorem tokenize_eq_ok_iff {source : Text} {tokens : List Token} :
    tokenize source = .ok tokens ↔
      ∃ pieces, Tiling source pieces ∧ pieces.map Piece.token = tokens := by
  rw [tokenize_eq, collect_eq_ok_iff]
  constructor
  · intro h
    obtain ⟨gap, pieces, hsource, -, hgap, htiles, htokens⟩ := TilesFrom.of_itemsFrom h
    obtain rfl := hgap rfl
    exact ⟨pieces, tiling_iff_tilesFrom.mpr ⟨hsource.symm, htiles⟩, htokens⟩
  · rintro ⟨pieces, htiling, rfl⟩
    obtain ⟨rfl, htiles⟩ := tiling_iff_tilesFrom.mp htiling
    exact htiles.itemsFrom_eq

/-- Sources are tokenized exactly by their tilings, and a source has one tiling at most. -/
theorem tokens_tile_source (source : Text) (tokens : List Token) :
    (tokenize source = .ok tokens ↔
      ∃ pieces, Tiling source pieces ∧ pieces.map Piece.token = tokens) ∧
    {pieces | Tiling source pieces}.Subsingleton := by
  refine ⟨tokenize_eq_ok_iff, ?_⟩
  intro pieces h others hother
  obtain ⟨hsource, htiles⟩ := tiling_iff_tilesFrom.mp h
  obtain ⟨hsource', htiles'⟩ := tiling_iff_tilesFrom.mp hother
  exact htiles.eq_of_source_eq htiles' (hsource.trans hsource'.symm)

end TagMarkup
