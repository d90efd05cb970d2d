import Mathlib
import TagMarkup.Proofs.Displacement
import TagMarkup.Proofs.Pulling
import TagMarkup.Proofs.Tiling

namespace TagMarkup

theorem Blank.append {gap gap' : Text} (h : Blank gap) (h' : Blank gap') : Blank (gap ++ gap') :=
  List.forall_mem_append.mpr ⟨h, h'⟩

theorem Blank.closes {gap : Text} (h : Blank gap) (hne : gap ≠ []) (rest : Text) :
    Closes (gap ++ rest) := by
  obtain ⟨c, gap, rfl⟩ := List.exists_cons_of_ne_nil hne
  have hc := h c (List.mem_cons_self)
  exact .cons (not_isNameRest_of_isWhiteSpace hc) (not_isNumberRest_of_isWhiteSpace hc) _

/-- The mode inside a tag is entered by the mark that opens it, and kept by all but the mark that
closes it. -/
theorem Mode.kind_of_after {m : Mode} {kind : TokenKind} (h : m.after kind = .insideTag)
    (hadmits : m.Admits kind) :
    kind ≠ .text ∧ kind ≠ .endOfInput ∧ (m = .outsideTag → kind = .tagOpen) := by
  cases m <;> cases kind <;> simp_all [Mode.after, Mode.Admits]

namespace Piece

def shift (n : Nat) (p : Piece) : Piece :=
  { p with token := p.token.shift n }

def withGap (gap : Text) (p : Piece) : Piece :=
  { p with gap := gap }

theorem source_map_shift (n : Nat) (pieces : List Piece) :
    source (pieces.map (shift n)) = source pieces := by
  rw [source, List.flatMap_map]
  rfl

theorem Fits.shift {p : Piece} {m : Mode} {offset : Nat} {after : Text}
    (h : p.Fits m offset after) (n : Nat) : (p.shift n).Fits m (offset + n) after :=
  ⟨congrArg (· + n) h.offset_eq, h.admits, h.spelling, h.blank, h.gap_outside⟩

theorem Fits.lexeme_ne_nil {p : Piece} {m : Mode} {offset : Nat} {after : Text}
    (h : p.Fits m offset after) (hkind : p.token.kind ≠ .endOfInput) : p.lexeme ≠ [] :=
  h.spelling.lexeme_ne_nil hkind

theorem Fits.after_text {p : Piece} {m : Mode} {offset : Nat} {after : Text}
    (h : p.Fits m offset after) (hkind : p.token.kind = .text) :
    m.after p.token.kind = .outsideTag := by
  have hadmits := h.admits
  rw [hkind] at hadmits ⊢
  cases m with
  | outsideTag => rfl
  | insideTag => exact absurd rfl hadmits.1

/-- After a token that leads into a tag or stays in it, the gap may be any white space. -/
theorem Fits.withGap {p : Piece} {m : Mode} {offset : Nat} {after gap : Text}
    (h : p.Fits m offset after) (hmode : m.after p.token.kind = .insideTag) (hgap : Blank gap)
    (hne : gap ≠ []) : (p.withGap gap).Fits m offset after := by
  obtain ⟨htext, hend, -⟩ := Mode.kind_of_after hmode h.admits
  refine ⟨h.offset_eq, h.admits, h.spelling.before_closes htext hend (hgap.closes hne after), hgap,
    ?_⟩
  intro houtside
  cases hmode.symm.trans houtside

/-- The lexeme of a piece is all that its token can be spelled by where it stands. -/
theorem Fits.eq_lexeme {p : Piece} {m : Mode} {before after lexeme : Text}
    (h : p.Fits m before.length after)
    (hspelled : p.token.SpelledIn (before ++ (p.lexeme ++ (p.gap ++ after))) lexeme) :
    lexeme = p.lexeme := by
  obtain ⟨rest, hdrop, hspelling⟩ := hspelled
  rw [h.offset_eq, List.drop_left] at hdrop
  obtain ⟨-, -, hlexeme, -⟩ := h.spelling.unique h.admits hspelling h.admits hdrop
  exact hlexeme.symm

/-- A piece may stand before other pieces that begin with the same characters. -/
theorem Fits.replace_after {p : Piece} {m : Mode} {offset : Nat} {common after after' : Text}
    (h : p.Fits m offset (common ++ after)) (hne : common ≠ [])
    (htwo : p.token.kind = .text → 2 ≤ common.length) : p.Fits m offset (common ++ after') := by
  have hspelling := h.spelling
  rw [← List.append_assoc] at hspelling
  have hspelling' : Spelling p.token.kind p.token.value p.lexeme (p.gap ++ common ++ after') :=
    hspelling.replace_after (List.append_ne_nil_of_right_ne_nil p.gap hne)
      fun htext => by
        have := htwo htext
        rw [List.length_append]
        omega
  rw [List.append_assoc] at hspelling'
  exact ⟨h.offset_eq, h.admits, hspelling', h.blank, h.gap_outside⟩

end Piece

namespace TilesFrom

variable {m : Mode} {offset : Nat} {pieces front back : List Piece} {p q : Piece}

theorem shift (h : TilesFrom m offset pieces) (n : Nat) :
    TilesFrom m (offset + n) (pieces.map (Piece.shift n)) := by
  induction h with
  | last hfits hkind => exact .last (hfits.shift n) hkind
  | @cons m offset p pieces hfits hkind hrest ih =>
      refine .cons ?_ hkind ?_
      · rw [Piece.source_map_shift]
        exact hfits.shift n
      · rw [Nat.add_right_comm]
        exact ih

theorem head (h : TilesFrom m offset (p :: pieces)) : p.Fits m offset (Piece.source pieces) :=
  h.fits (List.nil_append _).symm

theorem of_cons (h : TilesFrom m offset (p :: pieces)) (hne : pieces ≠ []) :
    p.Fits m offset (Piece.source pieces) ∧ p.token.kind ≠ .endOfInput ∧
      TilesFrom (m.after p.token.kind) (offset + p.text.length) pieces := by
  cases h with
  | last hfits hkind => contradiction
  | cons hfits hkind hrest => exact ⟨hfits, hkind, hrest⟩

theorem drop (h : TilesFrom m offset (front ++ q :: back)) :
    TilesFrom (Piece.modeAfter m front) (offset + (Piece.source front).length) (q :: back) := by
  induction front generalizing m offset with
  | nil => exact h
  | cons r front ih =>
      obtain ⟨-, -, hlater⟩ := h.of_cons (by simp)
      have hlength : offset + (Piece.source (r :: front)).length =
          offset + r.text.length + (Piece.source front).length := by
        simp [Piece.text, Nat.add_assoc]
      rw [hlength]
      exact ih hlater

/-- A token of a tag comes after a token that leads into the tag or stays in it. -/
theorem after_eq_insideTag (h : TilesFrom m offset (q :: back))
    (hinside : Mode.insideTag.Admits q.token.kind) : m = .insideTag := by
  have hadmits := h.head.admits
  cases m with
  | insideTag => rfl
  | outsideTag =>
      obtain ⟨htext, hopen, hend⟩ := hinside
      obtain hkind | hkind | hkind := hadmits <;> contradiction

/-- What stands before a gap inside a tag: something, and two characters at least if it begins
outside tags. -/
theorem common_length (h : TilesFrom m offset (front ++ p :: q :: back))
    (hinside : Mode.insideTag.Admits q.token.kind) :
    Piece.source front ++ p.lexeme ≠ [] ∧
      (m = .outsideTag → 2 ≤ (Piece.source front ++ p.lexeme).length) := by
  obtain ⟨hfits, hkind, hrest⟩ := h.drop.of_cons (by simp)
  have hlexeme := hfits.lexeme_ne_nil hkind
  refine ⟨List.append_ne_nil_of_right_ne_nil _ hlexeme, fun houtside => ?_⟩
  subst houtside
  cases front with
  | nil =>
      obtain ⟨-, -, hopen⟩ := Mode.kind_of_after (hrest.after_eq_insideTag hinside) hfits.admits
      have hspelling := hfits.spelling
      rw [hopen rfl] at hspelling
      rw [hspelling.lexeme_of_tagOpen]
      simp
  | cons r front =>
      obtain ⟨hfits', hkind', -⟩ := h.of_cons (by simp)
      have hone := List.length_pos_iff.mpr (hfits'.lexeme_ne_nil hkind')
      have htwo := List.length_pos_iff.mpr hlexeme
      simp only [Piece.source_cons, List.length_append]
      omega

/-- A gap inside a tag may be replaced by any white space, with all later tokens moved. -/
theorem withGap (h : TilesFrom m offset (front ++ p :: q :: back))
    (hinside : Mode.insideTag.Admits q.token.kind) {gap : Text} (hgap : Blank gap) (hne : gap ≠ [])
    {n : Nat} (hn : gap.length = p.gap.length + n) :
    TilesFrom m offset (front ++ p.withGap gap :: (q :: back).map (Piece.shift n)) := by
  induction front generalizing m offset with
  | nil =>
      obtain ⟨hfits, hkind, hrest⟩ := h.of_cons (by simp)
      refine .cons ?_ hkind ?_
      · rw [Piece.source_map_shift]
        exact hfits.withGap (hrest.after_eq_insideTag hinside) hgap hne
      · have hlength : offset + (p.withGap gap).text.length = offset + p.text.length + n := by
          simp only [Piece.text, Piece.withGap, List.length_append]
          omega
        rw [hlength]
        exact hrest.shift n
  | cons r front ih =>
      rw [List.cons_append] at h ⊢
      obtain ⟨hfits, hkind, hrest⟩ := h.of_cons (by simp)
      rw [Piece.source_append, Piece.source_cons, ← List.append_assoc] at hfits
      obtain ⟨hcommon, htwo⟩ := hrest.common_length hinside
      refine .cons ?_ hkind (ih hrest)
      rw [Piece.source_append, Piece.source_cons, ← List.append_assoc]
      exact hfits.replace_after hcommon fun htext => htwo (hfits.after_text htext)

/-- White space put into a gap inside a tag only moves the tokens after it. -/
theorem tokenize_blank (h : TilesFrom .outsideTag 0 (front ++ p :: q :: back))
    (hinside : Mode.insideTag.Admits q.token.kind) {before after : Text}
    (hgap : p.gap = before ++ after) {blank : Text} (hblank : Blank blank) :
    tokenize (Piece.source front ++ (p.lexeme ++ (before ++ (blank ++ (after ++
        Piece.source (q :: back)))))) =
      .ok (front.map Piece.token ++ p.token ::
        ((q :: back).map Piece.token).map (Token.shift blank.length)) := by
  rw [tokenize_eq, collect_eq_ok_iff]
  cases blank with
  | nil =>
      have hitems := h.itemsFrom_eq
      rw [Piece.source_append, Piece.source_cons, hgap, List.append_assoc] at hitems
      have hshift : Token.shift ([] : Text).length = id := rfl
      rw [List.nil_append, hitems, hshift, List.map_id]
      simp
  | cons c blank =>
      have hgap' : Blank (before ++ (c :: blank ++ after)) := by
        have hblank' : Blank (before ++ after) := by
          rw [← hgap]
          obtain ⟨hfits, -, -⟩ := h.drop.of_cons (by simp)
          exact hfits.blank
        obtain ⟨hbefore, hafter⟩ := List.forall_mem_append.mp hblank'
        exact Blank.append hbefore (Blank.append hblank hafter)
      have htiles := h.withGap hinside hgap' (by simp) (n := (c :: blank).length) (by
        simp only [hgap, List.length_append]
        omega)
      have hitems := htiles.itemsFrom_eq
      rw [Piece.source_append, Piece.source_cons, Piece.source_map_shift] at hitems
      simpa [Piece.withGap, Piece.shift, Function.comp_def] using hitems

end TilesFrom

/-- A place from the end of a token on, up to the token that comes next in a tag. -/
structure Separates (source : Text) (i : Nat) (t u : Token) : Prop where
  inside : Mode.insideTag.Admits u.kind
  after : ∃ lexeme, t.SpelledIn source lexeme ∧ t.offset + lexeme.length ≤ i
  before : i ≤ u.offset

theorem pairwise_offset_of_tokenize {source : Text} {tokens : List Token}
    (h : tokenize source = .ok tokens) : tokens.Pairwise fun t u => t.offset < u.offset := by
  rw [tokenize_eq, collect_eq_ok_iff, ← List.append_nil (tokens.map _)] at h
  exact (pairwise_offset_of_itemsFrom h).1

theorem map_displace_of_pairwise {front back : List Token} {t u : Token} {i : Nat}
    (hpairwise : (front ++ t :: u :: back).Pairwise fun t u => t.offset < u.offset)
    (ht : t.offset < i) (hu : i ≤ u.offset) (n : Nat) :
    (front ++ t :: u :: back).map (Token.displace i n) =
      front ++ t :: (u :: back).map (Token.shift n) := by
  obtain ⟨-, hlater, hfront⟩ := List.pairwise_append.mp hpairwise
  obtain ⟨-, hback⟩ := List.pairwise_cons.mp hlater
  obtain ⟨hback, -⟩ := List.pairwise_cons.mp hback
  have hbefore (s : Token) (hs : s.offset < i) : s.displace i n = s := by
    simp [Token.displace, displaced, Nat.not_le.mpr hs]
  have hafter (s : Token) (hs : i ≤ s.offset) : s.displace i n = s.shift n := by
    simp [Token.displace, Token.shift, displaced, hs]
  rw [List.map_append, List.map_cons, hbefore t ht]
  have hfront' : front.map (Token.displace i n) = front := by
    refine (List.map_congr_left fun s hs => hbefore s ?_).trans (List.map_id _)
    exact (hfront s hs t List.mem_cons_self).trans ht
  have hback' : (u :: back).map (Token.displace i n) = (u :: back).map (Token.shift n) := by
    refine List.map_congr_left ?_
    rw [List.forall_mem_cons]
    exact ⟨hafter u hu, fun s hs => hafter s (hu.trans (hback s hs).le)⟩
  rw [hfront', hback']

theorem Separates.exists_gap {front back : List Piece} {p q : Piece} {i : Nat}
    (hi : Separates (Piece.source (front ++ p :: q :: back)) i p.token q.token)
    (h : TilesFrom .outsideTag 0 (front ++ p :: q :: back)) :
    ∃ before after, p.gap = before ++ after ∧
      i = (Piece.source front ++ (p.lexeme ++ before)).length := by
  obtain ⟨-, ⟨lexeme, hspelled, hlexeme⟩, hbefore⟩ := hi
  obtain ⟨hfits, -, hlater⟩ := h.drop.of_cons (by simp)
  rw [Nat.zero_add] at hfits hlater
  rw [Piece.source_append, Piece.source_cons] at hspelled
  obtain rfl := hfits.eq_lexeme hspelled
  rw [hfits.offset_eq] at hlexeme
  rw [hlater.head.offset_eq, Piece.text, List.length_append] at hbefore
  let n := i - ((Piece.source front).length + p.lexeme.length)
  refine ⟨p.gap.take n, p.gap.drop n, (List.take_append_drop n p.gap).symm, ?_⟩
  simp only [List.length_append, List.length_take]
  omega

/-- White space between two tokens in a tag is a separator and no more: more of it changes no token
but for the offsets of those after it, and no document. -/
theorem tokenize_blank_inside {source blank : Text} {front back : List Token} {t u : Token}
    {i : Nat} (h : tokenize source = .ok (front ++ t :: u :: back)) (hi : Separates source i t u)
    (hblank : Blank blank) :
    tokenize (source.take i ++ (blank ++ source.drop i)) =
        .ok (front ++ t :: (u :: back).map (Token.shift blank.length)) ∧
      ∀ options, Document.parse options (source.take i ++ (blank ++ source.drop i)) =
        (Document.parse options source).mapError (ParseError.displace i blank.length) := by
  obtain ⟨pieces, htiling, hpieces⟩ := tokenize_eq_ok_iff.mp h
  obtain ⟨rfl, htiles⟩ := tiling_iff_tilesFrom.mp htiling
  obtain ⟨front, _, rfl, rfl, hrest⟩ := List.map_eq_append_iff.mp hpieces
  obtain ⟨p, _, rfl, rfl, hlater⟩ := List.map_eq_cons_iff.mp hrest
  obtain ⟨q, back, rfl, rfl, rfl⟩ := List.map_eq_cons_iff.mp hlater
  obtain ⟨before, after, hgap, rfl⟩ := hi.exists_gap htiles
  obtain ⟨hfits, hkind, -⟩ := htiles.drop.of_cons (by simp)
  have hsource : Piece.source (front ++ p :: q :: back) =
      Piece.source front ++ (p.lexeme ++ before) ++ (after ++ Piece.source (q :: back)) := by
    simp [hgap]
  have hoffset : p.token.offset < (Piece.source front ++ (p.lexeme ++ before)).length := by
    have hlexeme := List.length_pos_iff.mpr (hfits.lexeme_ne_nil hkind)
    rw [hfits.offset_eq]
    simp only [List.length_append]
    omega
  have htokens := htiles.tokenize_blank hi.inside hgap hblank
  rw [hsource, List.take_left, List.drop_left, ← hsource]
  simp only [List.append_assoc]
  refine ⟨htokens, Document.parse_displace (Nat.zero_lt_of_lt hoffset) h ?_⟩
  rw [map_displace_of_pairwise (pairwise_offset_of_tokenize h) hoffset hi.before]
  exact htokens

/-- Two characters between a number and the name right after it, which is not allowed there. -/
theorem tokenize_blank_inside_bound :
    tokenize "{$FOR i 1abc$}".toList =
      .ok [⟨.tagOpen, none, 0⟩, ⟨.name, some (.text ['F', 'O', 'R']), 2⟩,
        ⟨.name, some (.text ['i']), 6⟩, ⟨.integer, some (.integer 1), 8⟩,
        ⟨.name, some (.text ['a', 'b', 'c']), 9⟩, ⟨.tagClose, none, 12⟩,
        ⟨.endOfInput, none, 14⟩] ∧
    tokenize
        ['{', '$', 'F', 'O', 'R', ' ', 'i', ' ', '1', '\u2003', '\n', 'a', 'b', 'c', '$', '}'] =
      .ok [⟨.tagOpen, none, 0⟩, ⟨.name, some (.text ['F', 'O', 'R']), 2⟩,
        ⟨.name, some (.text ['i']), 6⟩, ⟨.integer, some (.integer 1), 8⟩,
        ⟨.name, some (.text ['a', 'b', 'c']), 11⟩, ⟨.tagClose, none, 14⟩,
        ⟨.endOfInput, none, 16⟩] ∧
    Document.parse {} "{$FOR i 1abc$}".toList = .error (.invalidBound ['a', 'b', 'c'] 9) ∧
    Document.parse {}
        ['{', '$', 'F', 'O', 'R', ' ', 'i', ' ', '1', '\u2003', '\n', 'a', 'b', 'c', '$', '}'] =
      .error (.invalidBound ['a', 'b', 'c'] 11) := by
  have htokens : tokenize "{$FOR i 1abc$}".toList =
      .ok ([⟨.tagOpen, none, 0⟩, ⟨.name, some (.text ['F', 'O', 'R']), 2⟩,
        ⟨.name, some (.text ['i']), 6⟩] ++ ⟨.integer, some (.integer 1), 8⟩ ::
        ⟨.name, some (.text ['a', 'b', 'c']), 9⟩ ::
        [⟨.tagClose, none, 12⟩, ⟨.endOfInput, none, 14⟩]) := by
    cbv
  have hparse : Document.parse {} "{$FOR i 1abc$}".toList =
      .error (.invalidBound ['a', 'b', 'c'] 9) := by
    cbv
  have hone : Spelling .integer (some (.integer 1)) ['1'] ['a', 'b', 'c', '$', '}'] :=
    .integer ⟨[], '1', [], .inl rfl, rfl, by decide, by simp, by decide⟩ (by cbv)
  have hplace : Separates "{$FOR i 1abc$}".toList 9 ⟨.integer, some (.integer 1), 8⟩
      ⟨.name, some (.text ['a', 'b', 'c']), 9⟩ :=
    ⟨by decide, ⟨_, ⟨_, rfl, hone⟩, by decide⟩, by decide⟩
  have hblank : Blank ['\u2003', '\n'] :=
    List.forall_mem_cons.mpr ⟨by decide, List.forall_mem_singleton.mpr (by decide)⟩
  obtain ⟨hseparated, hparses⟩ := tokenize_blank_inside htokens hplace hblank
  have hdisplaced := hparses {}
  rw [hparse] at hdisplaced
  exact ⟨htokens, hseparated, hparse, hdisplaced⟩

end TagMarkup
