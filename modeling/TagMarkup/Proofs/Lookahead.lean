import Mathlib
import TagMarkup.Proofs.Stream

namespace TagMarkup

/-! Tokens that end two characters or more before a place do not depend on what comes after it. -/

/-- A source begins with some tokens, all of which end two characters or more before a place. -/
structure BeginsBefore (n : Nat) (source : Text) (tokens : List Token) : Prop where
  stream : tokens.map .ok <+: (Lexer.ofSource source).items
  ends : ∀ t ∈ tokens, ∃ lexeme, t.SpelledIn source lexeme ∧ t.offset + lexeme.length + 2 ≤ n

/-- Two sources that have their first `n` characters in common. -/
structure AgreeBefore (n : Nat) (source other : Text) : Prop where
  length_le : n ≤ source.length
  length_le' : n ≤ other.length
  take_eq : source.take n = other.take n

namespace AgreeBefore

variable {n : Nat} {source other : Text}

theorem symm (h : AgreeBefore n source other) : AgreeBefore n other source :=
  ⟨h.length_le', h.length_le, h.take_eq.symm⟩

theorem take_drop_eq (h : AgreeBefore n source other) {i k : Nat} (hk : i + k ≤ n) :
    (source.drop i).take k = (other.drop i).take k := by
  have htake : source.take (i + k) = other.take (i + k) := by
    rw [← Nat.min_eq_left hk, ← List.take_take, h.take_eq, List.take_take]
  rw [List.take_drop, List.take_drop, htake]

/-- What begins at a place and ends before the common part does is in both sources. -/
theorem drop_eq_append (h : AgreeBefore n source other) {i : Nat} {front rest : Text}
    (hdrop : source.drop i = front ++ rest) (hfront : i + front.length ≤ n) :
    other.drop i = front ++ other.drop (i + front.length) := by
  have hcommon : (other.drop i).take front.length = front := by
    rw [← h.take_drop_eq hfront, hdrop, List.take_left]
  rw [← List.drop_drop]
  conv => lhs; rw [← List.take_append_drop front.length (other.drop i), hcommon]

theorem spelling (h : AgreeBefore n source other) {kind : TokenKind} {value : Option TokenValue}
    {lexeme : Text} {i : Nat} (hspelling : Spelling kind value lexeme (source.drop i))
    (hi : i + 2 ≤ n) : Spelling kind value lexeme (other.drop i) := by
  have hlength : ((source.drop i).take 2).length = 2 := by
    have := h.length_le
    rw [List.length_take, List.length_drop]
    omega
  rw [← List.take_append_drop 2 (other.drop i), ← h.take_drop_eq hi]
  rw [← List.take_append_drop 2 (source.drop i)] at hspelling
  exact hspelling.replace_after (List.ne_nil_of_length_pos (by omega)) fun _ => hlength.ge

/-- A token that ends early enough is read from both sources, and both go on after it. -/
theorem exists_next (h : AgreeBefore n source other) {m : Mode} {offset : Nat} {t : Token}
    {items : List (Except LexError Token)}
    (hitems : itemsFrom m offset (source.drop offset) = .ok t :: items) {lexeme : Text}
    (hspelled : t.SpelledIn source lexeme) (hend : t.offset + lexeme.length + 2 ≤ n) :
    ∃ stop, items = itemsFrom (m.after t.kind) stop (source.drop stop) ∧
      itemsFrom m offset (other.drop offset) =
        .ok t :: itemsFrom (m.after t.kind) stop (other.drop stop) ∧
      t.SpelledIn other lexeme := by
  obtain ⟨after, hdrop, hspelling⟩ := hspelled
  obtain ⟨hread, hrest⟩ := itemsFrom_eq_cons hitems
  obtain ⟨gap, lexeme', hsource, hblank, hgap, hoffset, hwidth, hadmits, hspelling'⟩ :=
    Lexeme.exists_spelling_of_read hread
  rw [hwidth] at hrest
  generalize (Lexeme.read m offset (source.drop offset)).rest = rest at hsource hrest hspelling'
  obtain ⟨kind, value, _⟩ := t
  obtain rfl : _ = offset + gap.length := hoffset
  have hend : offset + gap.length + lexeme.length + 2 ≤ n := hend
  have happend : lexeme ++ after = lexeme' ++ rest := by
    rw [← hdrop, ← List.drop_drop, hsource, List.drop_left]
  obtain ⟨-, -, rfl, rfl⟩ := hspelling.unique hadmits hspelling' hadmits happend
  have hafter : after = source.drop (offset + gap.length + lexeme.length) := by
    rw [← List.drop_drop, hdrop, List.drop_left]
  have hkind : kind ≠ .endOfInput := by
    rintro rfl
    rw [hspelling.endOfInput_after] at hafter
    have hnil := List.drop_eq_nil_iff.mp hafter.symm
    have := h.length_le
    omega
  have hother : Spelling kind value lexeme _ := h.spelling (hafter ▸ hspelling) hend
  have hdrop' := h.drop_eq_append hdrop (by omega)
  have hsource' : other.drop offset = gap ++ (lexeme ++ other.drop _) :=
    (h.drop_eq_append hsource (by omega)).trans (congrArg _ hdrop')
  refine ⟨offset + gap.length + lexeme.length, ?_, ?_, _, hdrop', hother⟩
  · rw [hrest, if_neg hkind, ← hafter, Nat.add_assoc]
  · rw [hsource', itemsFrom_of_gap offset hblank hgap hother hadmits hkind, Nat.add_assoc]

theorem itemsFrom_prefix (h : AgreeBefore n source other) {tokens : List Token} {m : Mode}
    {offset : Nat} (hitems : tokens.map .ok <+: itemsFrom m offset (source.drop offset))
    (hends : ∀ t ∈ tokens, ∃ lexeme, t.SpelledIn source lexeme ∧
      t.offset + lexeme.length + 2 ≤ n) :
    tokens.map .ok <+: itemsFrom m offset (other.drop offset) ∧
      ∀ t ∈ tokens, ∃ lexeme, t.SpelledIn other lexeme ∧ t.offset + lexeme.length + 2 ≤ n := by
  induction tokens generalizing m offset with
  | nil => exact ⟨List.nil_prefix, nofun⟩
  | cons t tokens ih =>
      rw [List.forall_mem_cons] at hends ⊢
      obtain ⟨⟨lexeme, hspelled, hend⟩, hends⟩ := hends
      obtain ⟨items, hitems⟩ := hitems
      obtain ⟨stop, hrest, hother, hspelled'⟩ := h.exists_next hitems.symm hspelled hend
      obtain ⟨hlater, hends'⟩ := ih ⟨items, hrest⟩ hends
      rw [hother, List.map_cons, List.cons_prefix_cons]
      exact ⟨⟨rfl, hlater⟩, ⟨lexeme, hspelled', hend⟩, hends'⟩

theorem beginsBefore (h : AgreeBefore n source other) {tokens : List Token}
    (hbegins : BeginsBefore n source tokens) : BeginsBefore n other tokens := by
  have hstart : source.drop 0 = source := rfl
  obtain ⟨hstream, hends⟩ :=
    h.itemsFrom_prefix (m := .outsideTag) (by rw [hstart]; exact hbegins.stream) hbegins.ends
  exact ⟨hstream, hends⟩

end AgreeBefore

/-- Sources that agree on their first `n` characters begin with the same tokens, as far as these end
two characters or more before that. -/
theorem beginsBefore_iff_of_agree {n : Nat} {source other : Text}
    (h : AgreeBefore n source other) (tokens : List Token) :
    BeginsBefore n source tokens ↔ BeginsBefore n other tokens :=
  ⟨h.beginsBefore, h.symm.beginsBefore⟩

/-- The number goes on in the one source and not in the other, after the tokens before it. -/
theorem beginsBefore_iff_of_agree_number :
    AgreeBefore 6 "ab{$=1$}".toList "ab{$=12 @f$}".toList ∧
    BeginsBefore 6 "ab{$=12 @f$}".toList
      [⟨.text, some (.text ['a', 'b']), 0⟩, ⟨.tagOpen, none, 2⟩] := by
  have hagree : AgreeBefore 6 "ab{$=1$}".toList "ab{$=12 @f$}".toList :=
    ⟨by decide, by decide, by decide⟩
  have hitems : (Lexer.ofSource "ab{$=1$}".toList).items =
      [.ok ⟨.text, some (.text ['a', 'b']), 0⟩, .ok ⟨.tagOpen, none, 2⟩,
        .ok ⟨.name, some (.text ['=']), 4⟩, .ok ⟨.integer, some (.integer 1), 5⟩,
        .ok ⟨.tagClose, none, 6⟩, .ok ⟨.endOfInput, none, 8⟩] := by
    cbv
  have htext : Spelling .text (some (.text ['a', 'b'])) ['a', 'b'] "{$=1$}".toList :=
    .text (.plain (by decide) (by decide) (.plain (by decide) (by decide) .nil)) (by decide)
      (.inr (by decide))
  refine ⟨hagree, (beginsBefore_iff_of_agree hagree _).mp ⟨?_, ?_⟩⟩
  · rw [hitems]
    exact ⟨_, rfl⟩
  · rw [List.forall_mem_cons, List.forall_mem_singleton]
    exact ⟨⟨_, ⟨_, rfl, htext⟩, by decide⟩, ⟨_, ⟨_, rfl, .tagOpen _⟩, by decide⟩⟩

example : tokenize ['a', '{', '$', '=', '$', '}'] =
      .ok [⟨.text, some (.text ['a']), 0⟩, ⟨.tagOpen, none, 1⟩, ⟨.name, some (.text ['=']), 3⟩,
        ⟨.tagClose, none, 4⟩, ⟨.endOfInput, none, 6⟩] ∧
    tokenize ['a', '{', 'b'] =
      .ok [⟨.text, some (.text ['a', '{', 'b']), 0⟩, ⟨.endOfInput, none, 3⟩] := by
  constructor <;> cbv

end TagMarkup
