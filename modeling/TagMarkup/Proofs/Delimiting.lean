import TagMarkup.Proofs.Rendering

namespace TagMarkup

theorem escapeText_inj {content other : Text} (h : escapeText content = escapeText other) :
    content = other := by
  have hread := (literalText_escapeText content []).scanText_eq (.inl rfl)
  rw [h, (literalText_escapeText other []).scanText_eq (.inl rfl)] at hread
  exact (congrArg Scan.text hread).symm

namespace Lexer

variable (lx : Lexer)

/-- A lexer takes what is spelled where it stands, after white space inside a tag, and nothing
more. -/
theorem nextToken_of_spelling (hlive : lx.isFinished = false) {kind : TokenKind}
    {value : Option TokenValue} {gap lexeme after : Text} (hblank : Blank gap)
    (hgap : lx.mode = .outsideTag → gap = []) (h : Spelling kind value lexeme after)
    (hadmits : lx.mode.Admits kind) (hrest : lx.rest = gap ++ (lexeme ++ after)) :
    lx.nextToken = (.ok ⟨kind, value, lx.offset + gap.length⟩, { lx with
      rest := after
      offset := lx.offset + (gap.length + lexeme.length)
      mode := lx.mode.after kind
      last := some ⟨kind, value, lx.offset + gap.length⟩ }) := by
  have hread : Lexeme.read lx.mode lx.offset lx.rest =
      (Lexeme.token kind value (lx.offset + gap.length) lexeme.length after).after gap.length := by
    rw [hrest, ← Lexeme.read_of_spelling (lx.offset + gap.length) h hadmits]
    cases hmode : lx.mode with
    | outsideTag =>
        obtain rfl := hgap hmode
        simp [Lexeme.after]
    | insideTag => exact Lexeme.read_gap hblank lx.offset (lexeme ++ after)
  simp only [nextToken, hlive, Bool.false_eq_true, if_false, hread]
  rfl

/-- Inside a tag, the canonical text of an element is read as one token, which stands for that
element. -/
theorem nextToken_element {element : Element} (hwell : element.WellFormed) {gap after : Text}
    (hgap : Blank gap) (hafter : Delimits after) (hmode : lx.mode = .insideTag)
    (hlive : lx.isFinished = false) (hrest : lx.rest = gap ++ element.render ++ after) :
    ∃ t, t.element? = some element ∧ t.offset = lx.offset + gap.length ∧
      lx.nextToken = (.ok t, { lx with
        rest := after
        offset := t.offset + element.render.length
        mode := .insideTag
        last := some t }) := by
  obtain ⟨kind, value, hadmits, hclose, hspelling, hdenotes⟩ := Element.isWritten hwell after hafter
  have helement := Token.element?_eq_some_iff.mpr (hdenotes (lx.offset + gap.length))
  have hnext := lx.nextToken_of_spelling hlive hgap (by simp [hmode]) hspelling (by rwa [hmode])
    (hrest.trans (List.append_assoc gap element.render after))
  rw [hmode, Mode.after_insideTag hadmits hclose, ← Nat.add_assoc] at hnext
  exact ⟨_, helement, rfl, hnext⟩

/-- A string that looks like the end of its tag, after a space of two bytes, for a lexer whose token
stream is closed. -/
theorem nextToken_element_string :
    ∃ t, t.element? = some (.string ['\\', '$', '}', '"', '\n']) ∧ t.offset = 6 ∧
      nextToken ⟨['\u00A0', '"', '\\', '\\', '$', '}', '\\', '"', '\\', 'n', '"', '$', '}'], 5,
          .insideTag, none, true⟩ =
        (.ok t, ⟨['$', '}'], 6 + 10, .insideTag, some t, true⟩) := by
  have hwell : Element.WellFormed (.string ['\\', '$', '}', '"', '\n']) := trivial
  have hgap : Blank ['\u00A0'] := List.forall_mem_singleton.mpr (by decide)
  obtain ⟨t, helement, hoffset, hnext⟩ := nextToken_element
    ⟨['\u00A0', '"', '\\', '\\', '$', '}', '\\', '"', '\\', 'n', '"', '$', '}'], 5,
      .insideTag, none, true⟩ hwell hgap (.dollar ['}']) rfl rfl rfl
  rw [hoffset] at hnext
  exact ⟨t, helement, hoffset, hnext⟩

/-- Outside tags, the canonical text of literal text is read as one token, which holds that text, up
to the next tag or the end of the source. So it tells which text it is. -/
theorem nextToken_text_and_render_injective :
    (∀ (lx : Lexer) {content after : Text}, content ≠ [] → (after = [] ∨ ['{', '$'] <+: after) →
      lx.mode = .outsideTag → lx.isFinished = false →
      lx.rest = (Node.text content).render ++ after →
      lx.nextToken = (.ok ⟨.text, some (.text content), lx.offset⟩, { lx with
        rest := after
        offset := lx.offset + (Node.text content).render.length
        mode := .outsideTag
        last := some ⟨.text, some (.text content), lx.offset⟩ })) ∧
    Function.Injective fun content => (Node.text content).render := by
  simp only [Node.render_text]
  refine ⟨?_, fun _ _ => escapeText_inj⟩
  intro lx content after hne hafter hmode hlive hrest
  have hadmits : lx.mode.Admits .text := by
    rw [hmode]
    exact .inl rfl
  have hnext := lx.nextToken_of_spelling hlive .nil (fun _ => rfl)
    (spelling_escapeText hne hafter) hadmits hrest
  rw [hmode, List.length_nil, Nat.zero_add] at hnext
  exact hnext

/-- Text that looks like a tag and ends in a backslash, before a tag. -/
theorem nextToken_text_before_tag :
    nextToken ⟨['\\', '{', '$', '}', '\\', '\\', '{', '$', 'x'], 3, .outsideTag, none, false⟩ =
      (.ok ⟨.text, some (.text ['{', '$', '}', '\\']), 3⟩,
        ⟨['{', '$', 'x'], 3 + 6, .outsideTag, some ⟨.text, some (.text ['{', '$', '}', '\\']), 3⟩,
          false⟩) := by
  have hne : ['{', '$', '}', '\\'] ≠ [] := by decide
  exact nextToken_text_and_render_injective.1
    ⟨['\\', '{', '$', '}', '\\', '\\', '{', '$', 'x'], 3, .outsideTag, none, false⟩ hne
    (.inr ⟨['x'], rfl⟩) rfl rfl rfl

end Lexer

end TagMarkup
