import TagMarkup.Proofs.Stream

namespace TagMarkup

/-! The lexer carries nothing over the seam of two sources but the text that it has begun. -/

/-- The mark that opens a tag stands half in the one source and half in the other. -/
def SplitsMark (front back : Text) : Prop :=
  front.getLast? = some '{' ∧ back.head? = some '$'

theorem SplitsMark.prepend {front back : Text} (h : SplitsMark front back) (before : Text) :
    SplitsMark (before ++ front) back := by
  refine ⟨?_, h.2⟩
  rw [List.getLast?_append, h.1]
  rfl

theorem opensTag_append {front back : Text} (hne : front ≠ []) (hseam : ¬SplitsMark front back)
    (h : opensTag front = false) : opensTag (front ++ back) = false := by
  rw [Bool.eq_false_iff] at h ⊢
  intro hopens
  obtain ⟨rest, hrest⟩ := opensTag_iff.mp hopens
  match front with
  | [] => contradiction
  | [c] =>
      obtain ⟨rfl, rfl⟩ := List.cons_eq_cons.mp hrest
      exact hseam ⟨rfl, rfl⟩
  | c :: d :: front =>
      obtain ⟨rfl, htail⟩ := List.cons_eq_cons.mp hrest
      obtain ⟨rfl, -⟩ := List.cons_eq_cons.mp htail
      exact h rfl

theorem LiteralText.append_after {after lexeme content more : Text}
    (h : LiteralText after lexeme content) (hseam : ¬SplitsMark (lexeme ++ after) more) :
    LiteralText (after ++ more) lexeme content := by
  induction h with
  | nil => exact .nil
  | @escape c lexeme content hc hrest ih =>
      exact .escape hc (ih fun hsplit => hseam (hsplit.prepend ['\\', c]))
  | @plain c lexeme content hc htag hrest ih =>
      refine .plain hc ?_ (ih fun hsplit => hseam (hsplit.prepend [c]))
      rw [← opensTag_iff_starts, Bool.not_eq_true] at htag ⊢
      rw [← List.append_assoc, ← List.cons_append]
      exact opensTag_append (List.cons_ne_nil _ _) hseam htag

theorem Spelling.append_after {kind : TokenKind} {value : Option TokenValue}
    {lexeme after : Text} (h : Spelling kind value lexeme after)
    (hnext : after ≠ [] ∨ kind = .tagClose) (more : Text) :
    Spelling kind value lexeme (after ++ more) := by
  by_cases hne : after = []
  · obtain rfl := hnext.resolve_left (not_not_intro hne)
    cases h with
    | tagClose => exact .tagClose _
  · have htext (hkind : kind = .text) : 2 ≤ after.length := by
      subst hkind
      cases h with
      | text hrun hnonempty hend => exact (hend.resolve_left hne).length_le
    rw [← List.append_nil after] at h
    exact h.replace_after hne htext

/-- How the tokens of a source, without the end of the input, and the stream of another source make
one stream. -/
inductive Joins (front : List Token) :
    List (Except LexError Token) → List (Except LexError Token) → Prop
  | apart (items : List (Except LexError Token)) : Joins front items (front.map .ok ++ items)
  | text (before : List Token) {content more : Text} {offset offset' : Nat}
      {later : List (Except LexError Token)}
      (hfront : front = before ++ [⟨.text, some (.text content), offset⟩]) :
      Joins front (.ok ⟨.text, some (.text more), offset'⟩ :: later)
        (before.map .ok ++ .ok ⟨.text, some (.text (content ++ more)), offset⟩ :: later)
  | error (before : List Token) {content : Text} {offset : Nat} {e : LexError}
      (hfront : front = before ++ [⟨.text, some (.text content), offset⟩]) :
      Joins front [.error e] (before.map .ok ++ [.error e])

theorem Joins.cons {front : List Token} {items joined : List (Except LexError Token)}
    (h : Joins front items joined) (t : Token) : Joins (t :: front) items (.ok t :: joined) := by
  cases h with
  | apart => exact .apart items
  | text before hfront => exact .text (t :: before) (congrArg (t :: ·) hfront)
  | error before hfront => exact .error (t :: before) (congrArg (t :: ·) hfront)

theorem scanText_text_ne_nil {source : Text} (hne : source ≠ [])
    (hopens : opensTag source = false) (hfault : (scanText source).fault = none) :
    (scanText source).text ≠ [] := by
  obtain ⟨lexeme, hsource, -, hrun, hend⟩ := exists_literalText_of_scanText hfault
  intro htext
  rw [hrun.content_eq_nil_iff.mp htext, List.nil_append] at hsource
  obtain hrest | hrest := hend
  · exact hne (hsource.trans hrest)
  · rw [← hsource, ← opensTag_iff_starts, hopens] at hrest
    contradiction

theorem itemsFrom_of_fault (offset : Nat) {source : Text} (hopens : opensTag source = false)
    {f : ScanFault} (hfault : (scanText source).fault = some f) :
    itemsFrom .outsideTag offset source =
      [.error (f.error (offset + (scanText source).width))] := by
  apply itemsFrom_of_error
  simp [Lexeme.read, Lexeme.outsideTag, hopens, hfault, Lexeme.fault]

theorem itemsFrom_of_text (offset : Nat) {source : Text} (hopens : opensTag source = false)
    (hfault : (scanText source).fault = none) (htext : (scanText source).text ≠ []) :
    itemsFrom .outsideTag offset source =
      .ok ⟨.text, some (.text (scanText source).text), offset⟩ ::
        itemsFrom .outsideTag (offset + (scanText source).width) (scanText source).rest := by
  have hread : Lexeme.read .outsideTag offset source = .token .text
      (some (.text (scanText source).text)) offset (scanText source).width
      (scanText source).rest := by
    simp [Lexeme.read, Lexeme.outsideTag, hopens, hfault, htext]
  have hitems := itemsFrom_of_token (t := ⟨.text, some (.text (scanText source).text), offset⟩)
    (congrArg Lexeme.outcome hread) (by simp)
  rwa [hread] at hitems

theorem joins_text {lexeme content after : Text} (offset : Nat)
    (hrun : LiteralText after lexeme content) (hne : lexeme ≠ []) :
    Joins [⟨.text, some (.text content), offset⟩]
      (itemsFrom .outsideTag (offset + lexeme.length) after)
      (itemsFrom .outsideTag offset (lexeme ++ after)) := by
  by_cases hend : after = [] ∨ ['{', '$'] <+: after
  · rw [itemsFrom_of_spelling offset (.text hrun hne hend) (by decide) (by decide)]
    exact .apart _
  · rw [not_or, ← opensTag_iff_starts, Bool.not_eq_true] at hend
    obtain ⟨hafter, hopens⟩ := hend
    have hopens' := hrun.opensTag_eq_false hne
    have hscan := hrun.scanText_append
    have hoffset : offset + ((scanText after).width + lexeme.length) =
        offset + lexeme.length + (scanText after).width := by
      omega
    cases hfault : (scanText after).fault with
    | some f =>
        have hfault' : (scanText (lexeme ++ after)).fault = some f := by rw [hscan, hfault]
        rw [itemsFrom_of_fault _ hopens hfault, itemsFrom_of_fault _ hopens' hfault', hscan,
          hoffset]
        exact .error [] rfl
    | none =>
        have hfault' : (scanText (lexeme ++ after)).fault = none := by rw [hscan, hfault]
        have htext := scanText_text_ne_nil hafter hopens hfault
        have htext' : (scanText (lexeme ++ after)).text ≠ [] := by simp [hscan, htext]
        rw [itemsFrom_of_text _ hopens hfault htext, itemsFrom_of_text _ hopens' hfault' htext',
          hscan, hoffset]
        exact .text [] rfl

theorem eq_nil_of_singleton {front : List Token} {last : Token} {item : Except LexError Token}
    (h : [item] = front.map .ok ++ [.ok last]) : front = [] ∧ item = .ok last := by
  cases front with
  | nil => exact ⟨rfl, (List.cons_eq_cons.mp h).1⟩
  | cons t front => simp at h

theorem exists_tail_of_cons {front : List Token} {t last : Token}
    {items : List (Except LexError Token)} (h : .ok t :: items = front.map .ok ++ [.ok last])
    (hne : items ≠ []) : ∃ tail, front = t :: tail ∧ items = tail.map .ok ++ [.ok last] := by
  cases front with
  | nil => exact (hne (List.cons_eq_cons.mp h).2).elim
  | cons u tail =>
      obtain ⟨hhead, htail⟩ := List.cons_eq_cons.mp h
      obtain rfl := Except.ok.inj hhead
      exact ⟨tail, rfl, htail⟩

/-- The stream of two sources, the first of which has tokens, is made of their streams. -/
theorem joins_itemsFrom {m : Mode} {offset : Nat} {source more : Text} {front : List Token}
    {last : Token} (hitems : itemsFrom m offset source = front.map .ok ++ [.ok last])
    (hseam : ¬SplitsMark source more) :
    Joins front (itemsFrom .outsideTag (offset + source.length) more)
      (itemsFrom m offset (source ++ more)) := by
  induction m, offset, source using itemsFrom_induction generalizing front with
  | error h =>
      rw [itemsFrom_of_error h] at hitems
      cases (eq_nil_of_singleton hitems).2
  | @endOfInput m offset source t h hkind =>
      obtain ⟨rfl, rfl, -⟩ := Lexeme.read_endOfInput h hkind
      rw [itemsFrom_nil] at hitems
      obtain ⟨rfl, -⟩ := eq_nil_of_singleton hitems
      exact .apart _
  | @token m offset source t h hkind ih =>
      obtain ⟨gap, lexeme, hsource, hblank, hgap, hoffset, hwidth, hadmits, hspelling⟩ :=
        Lexeme.exists_spelling_of_read h
      rw [itemsFrom_of_token h hkind, hwidth] at hitems
      rw [hwidth] at ih
      generalize (Lexeme.read m offset source).rest = rest at *
      subst hsource
      obtain ⟨kind, value, _⟩ := t
      obtain rfl : _ = offset + gap.length := hoffset
      obtain ⟨front, rfl, hrest⟩ := exists_tail_of_cons hitems (itemsFrom_ne_nil _ _ _)
      have hlength : offset + (gap ++ (lexeme ++ rest)).length =
          offset + (gap.length + lexeme.length) + rest.length := by
        simp only [List.length_append]
        omega
      by_cases hnext : rest ≠ [] ∨ kind = .tagClose
      · have hlater := ih hrest fun hsplit =>
          hseam (by simpa using hsplit.prepend (gap ++ lexeme))
        have hspelling' := hspelling.append_after hnext more
        rw [hlength, List.append_assoc, List.append_assoc,
          itemsFrom_of_gap offset hblank hgap hspelling' hadmits hkind]
        exact hlater.cons _
      · obtain ⟨hnil, hclose⟩ := not_or.mp hnext
        obtain rfl := not_ne_iff.mp hnil
        cases hmode : m.after kind with
        | insideTag =>
            rw [hmode, itemsFrom_insideTag_nil] at hrest
            cases (eq_nil_of_singleton hrest).2
        | outsideTag =>
            rw [hmode, itemsFrom_nil] at hrest
            obtain ⟨rfl, -⟩ := eq_nil_of_singleton hrest
            obtain ⟨rfl, rfl⟩ : m = .outsideTag ∧ kind = .text := by
              cases m <;> cases kind <;> simp_all [Mode.after, Mode.Admits]
            obtain rfl := hgap rfl
            cases hspelling with
            | text hrun hne hend =>
                rw [List.nil_append, List.append_nil] at hseam ⊢
                have hrun' := hrun.append_after (by rwa [List.append_nil])
                exact joins_text offset hrun' hne

/-- A source that opens a tag at once begins anew. -/
theorem itemsFrom_append_of_opensTag {m : Mode} {offset : Nat} {source more : Text}
    {front : List Token} {last : Token}
    (hitems : itemsFrom m offset source = front.map .ok ++ [.ok last])
    (hopens : ['{', '$'] <+: more) :
    itemsFrom m offset (source ++ more) =
      front.map .ok ++ itemsFrom .outsideTag (offset + source.length) more := by
  obtain ⟨after, rfl⟩ := hopens
  have hseam : ¬SplitsMark source (['{', '$'] ++ after) := by simp [SplitsMark]
  have hjoin := joins_itemsFrom hitems hseam
  have hmark := itemsFrom_of_spelling (offset + source.length) (.tagOpen after)
    (m := .outsideTag) (by decide) (by decide)
  rw [hmark] at hjoin ⊢
  generalize itemsFrom m offset (source ++ (['{', '$'] ++ after)) = joined at hjoin ⊢
  cases hjoin with
  | apart => rfl

end TagMarkup
