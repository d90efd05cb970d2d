import TagMarkup.Proofs.WellFormed

namespace TagMarkup

open Unicode

/-- White space between tokens inside a tag, so that none of them goes on. -/
structure IsGap (gap : Text) : Prop where
  blank : Blank gap
  ne_nil : gap ≠ []

theorem IsGap.singleton {c : Char} (h : isWhiteSpace c = true) : IsGap [c] :=
  ⟨List.forall_mem_singleton.mpr h, List.cons_ne_nil c []⟩

theorem isGap_blank : IsGap [' '] :=
  .singleton (by decide)

/-- Text that comes after an element or a number inside a tag: white space, or the mark that closes
the tag. -/
def Delimits (after : Text) : Prop :=
  ∃ c rest, after = c :: rest ∧ (isWhiteSpace c = true ∨ c = '$')

theorem Delimits.closes {after : Text} (h : Delimits after) : Closes after := by
  obtain ⟨c, rest, rfl, hblank | rfl⟩ := h
  · exact .cons (not_isNameRest_of_isWhiteSpace hblank) (not_isNumberRest_of_isWhiteSpace hblank)
      rest
  · exact .cons (by decide) (by decide) rest

theorem Delimits.dollar (rest : Text) : Delimits ('$' :: rest) :=
  ⟨'$', rest, rfl, .inr rfl⟩

theorem IsGap.delimits {gap : Text} (h : IsGap gap) (rest : Text) : Delimits (gap ++ rest) := by
  obtain ⟨c, run, rfl⟩ := List.exists_cons_of_ne_nil h.ne_nil
  exact ⟨c, run ++ rest, rfl, .inl (h.blank c List.mem_cons_self)⟩

theorem Blank.delimits {gap after : Text} (h : Blank gap) (hafter : Delimits after) :
    Delimits (gap ++ after) := by
  by_cases hne : gap = []
  · rw [hne]
    exact hafter
  · exact IsGap.delimits ⟨h, hne⟩ after

theorem Delimits.blank (rest : Text) : Delimits (' ' :: rest) :=
  isGap_blank.delimits rest

/-! What canonical texts are made of is spelled. -/

theorem isWord_of_isValidName {name : Text} (h : isValidName name = true) {after : Text}
    (hafter : Delimits after) : IsWord after name :=
  isWord_iff.mpr ⟨h, hafter.closes.name⟩

theorem Number.isNumeral_of_parse? {t : Text} {n : Number} (h : parse? t = some n) {after : Text}
    (hafter : Delimits after) : IsNumeral after t := by
  obtain ⟨negative, u, rfl, hread⟩ := parse?_eq_some h
  obtain ⟨whole, hne, hwhole, hu⟩ := unsigned?_eq_some hread
  obtain ⟨c, run, rfl⟩ := List.exists_cons_of_ne_nil hne
  have hrest : ∃ rest, u = c :: rest ∧ ∀ d ∈ rest, isNumberRest d = true := by
    obtain ⟨rfl, -⟩ | ⟨fraction, hfraction, rfl, -⟩ := hu
    · exact ⟨run, rfl, fun d hd => isNumberRest_of_isDigit (hwhole d (by simp [hd]))⟩
    · refine ⟨run ++ '.' :: fraction, rfl, ?_⟩
      intro d hd
      obtain hd | hd := List.mem_append.mp hd
      · exact isNumberRest_of_isDigit (hwhole d (by simp [hd]))
      obtain rfl | hd := List.mem_cons.mp hd
      · decide
      · exact isNumberRest_of_isDigit (hfraction d hd)
  obtain ⟨rest, rfl, hrest⟩ := hrest
  refine ⟨_, c, rest, ?_, rfl, hwhole c (by simp), hrest, hafter.closes.number⟩
  cases negative <;> simp

theorem literalText_escapeText (content : Text) (after : Text) :
    LiteralText after (escapeText content) content := by
  induction content with
  | nil => exact .nil
  | cons c content ih =>
      rw [escapeText, List.flatMap_cons]
      split
      · rename_i hc
        exact .escape hc ih
      · rename_i hc
        obtain ⟨hbackslash, hbrace⟩ := not_or.mp hc
        refine .plain hbackslash ?_ ih
        rintro ⟨rest, hrest⟩
        exact hbrace (List.cons_eq_cons.mp hrest).1.symm

theorem spelling_escapeText {content after : Text} (hne : content ≠ [])
    (hafter : after = [] ∨ ['{', '$'] <+: after) :
    Spelling .text (some (.text content)) (escapeText content) after :=
  have hrun := literalText_escapeText content after
  .text hrun (hrun.content_eq_nil_iff.not.mp hne) hafter

theorem literalString_escapeLiteral (content : Text) :
    LiteralString (content.flatMap escapeLiteralChar) content := by
  induction content with
  | nil => exact .nil
  | cons c content ih =>
      rw [List.flatMap_cons]
      unfold escapeLiteralChar
      split
      case h_6 hbackslash hquote _ _ _ => exact .plain hquote hbackslash ih
      all_goals exact .escape (by decide) ih

theorem Number.spelling_of_parse? {t : Text} {n : Number} (h : parse? t = some n) {after : Text}
    (hafter : Delimits after) : Spelling n.tokenKind (some n.tokenValue) t after := by
  have hrun := isNumeral_of_parse? h hafter
  cases n with
  | integer value => exact .integer hrun h
  | double value => exact .double hrun h

theorem Number.admits_tokenKind (n : Number) :
    Mode.insideTag.Admits n.tokenKind ∧ n.tokenKind ≠ .tagClose := by
  cases n <;> simp [tokenKind, Mode.Admits]

/-- A value is written as a token that stands for it, whatever comes after it in a tag. -/
def IsWritten {α : Type} (relates : Token → α → Prop) (render : α → Text) (value : α) : Prop :=
  ∀ after, Delimits after → ∃ kind tokenValue, Mode.insideTag.Admits kind ∧ kind ≠ .tagClose ∧
    Spelling kind tokenValue (render value) after ∧
      ∀ offset, relates ⟨kind, tokenValue, offset⟩ value

theorem Number.bounds_token (n : Number) (offset : Nat) :
    Token.Bounds ⟨n.tokenKind, some n.tokenValue, offset⟩ n := by
  cases n <;> constructor

theorem Number.isWritten {n : Number} (h : n.IsFinite) :
    IsWritten Token.Bounds Number.render n :=
  fun _ hafter => ⟨n.tokenKind, some n.tokenValue, n.admits_tokenKind.1, n.admits_tokenKind.2,
    spelling_of_parse? (parse?_render h) hafter, n.bounds_token⟩

theorem Element.isWritten {element : Element} (h : element.WellFormed) :
    IsWritten Token.Denotes Element.render element := by
  intro after hafter
  cases element with
  | number n =>
      refine ⟨n.tokenKind, some n.tokenValue, n.admits_tokenKind.1, n.admits_tokenKind.2,
        Number.spelling_of_parse? (Number.parse?_render h) hafter, fun offset => ?_⟩
      cases n <;> constructor
  | string content =>
      exact ⟨_, _, by decide, by decide, .string after (literalString_escapeLiteral content),
        fun offset => .string content offset⟩
  | «variable» name =>
      exact ⟨_, _, by decide, by decide, .name (isWord_of_isValidName h hafter),
        fun offset => .name h offset⟩
  | function name =>
      exact ⟨_, _, by decide, by decide, .function (isWord_of_isValidName h hafter),
        fun offset => .function name offset⟩
  | operator symbol =>
      obtain ⟨c, hc, rfl⟩ : ∃ c ∈ ['+', '-', '*', '/', '^'], [c] = symbol :=
        List.mem_map.mp h
      exact ⟨_, _, by decide, by decide,
        .operator hc (fun _ => hafter.closes.digit), fun offset => .operator c offset⟩

/-! Canonical texts in a token stream. -/

theorem itemsFrom_tagOpen (offset : Nat) (after : Text) :
    itemsFrom .outsideTag offset ('{' :: '$' :: after) =
      .ok ⟨.tagOpen, none, offset⟩ :: itemsFrom .insideTag (offset + 2) after :=
  itemsFrom_of_spelling offset (.tagOpen after) (by decide) (by decide)

theorem itemsFrom_tagClose (offset : Nat) (after : Text) :
    itemsFrom .insideTag offset ('$' :: '}' :: after) =
      .ok ⟨.tagClose, none, offset⟩ :: itemsFrom .outsideTag (offset + 2) after :=
  itemsFrom_of_spelling offset (.tagClose after) (by decide) (by decide)

theorem Mode.after_insideTag {kind : TokenKind} (hadmits : Mode.insideTag.Admits kind)
    (hclose : kind ≠ .tagClose) : Mode.insideTag.after kind = .insideTag := by
  cases kind with
  | tagOpen => exact (hadmits.2.1 rfl).elim
  | tagClose => exact (hclose rfl).elim
  | _ => rfl

theorem itemsFrom_insideTag (offset : Nat) {kind : TokenKind} {value : Option TokenValue}
    {lexeme after : Text} (h : Spelling kind value lexeme after)
    (hadmits : Mode.insideTag.Admits kind) (hclose : kind ≠ .tagClose) :
    itemsFrom .insideTag offset (lexeme ++ after) =
      .ok ⟨kind, value, offset⟩ :: itemsFrom .insideTag (offset + lexeme.length) after := by
  rw [itemsFrom_of_spelling offset h hadmits hadmits.2.2, Mode.after_insideTag hadmits hclose]

theorem itemsFrom_blank (offset : Nat) (after : Text) :
    itemsFrom .insideTag offset (' ' :: after) = itemsFrom .insideTag (offset + 1) after :=
  itemsFrom_gap isGap_blank.blank offset after

/-- A loop tag up to the end of its bounds, as they are written. -/
def loopTag (name bounds : Text) : Text :=
  ['{', '$', 'F', 'O', 'R', ' '] ++ name ++ bounds

theorem loopTag_append (name bounds after : Text) :
    loopTag name bounds ++ after = loopTag name (bounds ++ after) :=
  List.append_assoc _ bounds after

theorem length_loopTag (name bounds : Text) :
    (loopTag name bounds).length = 6 + name.length + bounds.length := by
  rw [loopTag, List.length_append, List.length_append]
  rfl

theorem itemsFrom_loopTag {name : Text} (hname : isValidName name = true) {bounds : Text}
    (hbounds : Delimits bounds) (offset : Nat) :
    itemsFrom .outsideTag offset (loopTag name bounds) = .ok ⟨.tagOpen, none, offset⟩ ::
      .ok ⟨.name, some (.text ['F', 'O', 'R']), offset + 2⟩ ::
        .ok ⟨.name, some (.text name), offset + 6⟩ ::
          itemsFrom .insideTag (offset + (6 + name.length)) bounds := by
  have htag : IsWord (' ' :: (name ++ bounds)) ['F', 'O', 'R'] :=
    isWord_of_isValidName (by decide) (.blank _)
  have hsource : loopTag name bounds =
      '{' :: '$' :: (['F', 'O', 'R'] ++ ' ' :: (name ++ bounds)) := by
    simp [loopTag]
  rw [hsource, itemsFrom_tagOpen, itemsFrom_insideTag _ (.name htag) (by decide) (by decide),
    itemsFrom_blank, itemsFrom_insideTag _ (.name (isWord_of_isValidName hname hbounds))
      (by decide) (by decide), ← Nat.add_assoc]
  rfl

section Values

variable {α : Type} (gap render : α → Text) {values : List α} {after : Text}

theorem Delimits.before_values (hafter : Delimits after)
    (hgap : ∀ value ∈ values, IsGap (gap value)) :
    Delimits (values.flatMap (fun value => gap value ++ render value) ++ after) := by
  cases values with
  | nil => exact hafter
  | cons value values =>
      rw [List.flatMap_cons, List.append_assoc, List.append_assoc]
      exact (hgap value List.mem_cons_self).delimits _

theorem exists_itemsFrom_values {relates : Token → α → Prop}
    (hgap : ∀ value ∈ values, IsGap (gap value))
    (h : ∀ value ∈ values, IsWritten relates render value) (hafter : Delimits after)
    (offset : Nat) :
    ∃ tokens, List.Forall₂ relates tokens values ∧
      itemsFrom .insideTag offset
          (values.flatMap (fun value => gap value ++ render value) ++ after) =
        tokens.map .ok ++ itemsFrom .insideTag
          (offset + (values.flatMap fun value => gap value ++ render value).length) after := by
  induction values generalizing offset with
  | nil => exact ⟨[], .nil, rfl⟩
  | cons value values ih =>
      rw [List.forall_mem_cons] at hgap h
      obtain ⟨kind, tokenValue, hadmits, hclose, hspelling, hrelates⟩ :=
        h.1 _ (hafter.before_values gap render hgap.2)
      obtain ⟨tokens, htokens, hitems⟩ :=
        ih hgap.2 h.2 (offset + (gap value).length + (render value).length)
      refine ⟨_ :: tokens, .cons (hrelates (offset + (gap value).length)) htokens, ?_⟩
      rw [List.flatMap_cons, List.append_assoc, List.append_assoc, itemsFrom_gap hgap.1.blank,
        itemsFrom_insideTag _ hspelling hadmits hclose, hitems, List.length_append,
        List.length_append, ← Nat.add_assoc, ← Nat.add_assoc]
      rfl

theorem exists_itemsFrom_loopTag (bound : α → Number) {name : Text}
    (hname : isValidName name = true) (hlength : values.length ≤ 3)
    (hgap : ∀ value ∈ values, IsGap (gap value))
    (h : ∀ value ∈ values, IsWritten (fun t value => t.Bounds (bound value)) render value)
    (hafter : Delimits after) (offset : Nat) :
    ∃ tokens, Place.Reads (.loopBounds offset name (values.map bound)) tokens ∧
      itemsFrom .outsideTag offset
          (loopTag name (values.flatMap fun value => gap value ++ render value) ++ after) =
        tokens.map .ok ++ itemsFrom .insideTag (offset +
          (loopTag name (values.flatMap fun value => gap value ++ render value)).length) after := by
  obtain ⟨tokens, htokens, hitems⟩ :=
    exists_itemsFrom_values gap render hgap h hafter (offset + (6 + name.length))
  have hopening := itemsFrom_loopTag hname (hafter.before_values gap render hgap) offset
  rw [← loopTag_append, hitems, Nat.add_assoc, ← length_loopTag] at hopening
  let mark : Token := ⟨.tagOpen, none, offset⟩
  have hmark : mark.kind = .tagOpen := rfl
  have hreads : Place.Reads (.loopBounds offset name (values.map bound))
      (mark :: ⟨.name, some (.text ['F', 'O', 'R']), offset + 2⟩ ::
        ⟨.name, some (.text name), offset + 6⟩ :: tokens) :=
    .loopBounds hmark ⟨_, .intro _ _, by decide⟩ (.intro _ _) hname
      (List.forall₂_map_right_iff.mpr htokens) (by simpa using hlength)
  exact ⟨_, hreads, hopening⟩

end Values

/-- From any offset on, tokens that satisfy `p` are read off a text, up to a text after it. -/
def Yields (m : Mode) (source : Text) (p : List Token → Prop) (m' : Mode) (after : Text) : Prop :=
  ∀ offset, ∃ tokens offset', p tokens ∧
    itemsFrom m offset source = tokens.map .ok ++ itemsFrom m' offset' after

theorem Yields.imp {m m' : Mode} {source after : Text} {p q : List Token → Prop}
    (h : Yields m source p m' after) (himp : ∀ tokens, p tokens → q tokens) :
    Yields m source q m' after := by
  intro offset
  obtain ⟨tokens, offset', htokens, hitems⟩ := h offset
  exact ⟨tokens, offset', himp tokens htokens, hitems⟩

theorem Yields.trans {m m' m'' : Mode} {source middle after : Text} {p q r : List Token → Prop}
    (hfront : Yields m source p m' middle) (hback : Yields m' middle q m'' after)
    (h : ∀ tokens rest, p tokens → q rest → r (tokens ++ rest)) :
    Yields m source r m'' after := by
  intro offset
  obtain ⟨tokens, offset', htokens, hitems⟩ := hfront offset
  obtain ⟨rest, offset'', hrest, hitems'⟩ := hback offset'
  refine ⟨tokens ++ rest, offset'', h tokens rest htokens hrest, ?_⟩
  rw [hitems, hitems', List.map_append, List.append_assoc]

theorem yields_tagClose (after : Text) :
    Yields .insideTag ('$' :: '}' :: after)
      (fun tokens => ∃ close : Token, tokens = [close] ∧ close.kind = .tagClose) .outsideTag after :=
  fun offset => ⟨_, _, ⟨_, rfl, rfl⟩, itemsFrom_tagClose offset after⟩

theorem yields_values {α : Type} {relates : Token → α → Prop} {render : α → Text}
    {values : List α} (h : ∀ value ∈ values, IsWritten relates render value) (after : Text) :
    Yields .insideTag (values.flatMap (fun value => ' ' :: render value) ++ '$' :: '}' :: after)
      (fun tokens => ∃ front close, tokens = front ++ [close] ∧
        List.Forall₂ relates front values ∧ close.kind = .tagClose) .outsideTag after := by
  have hfront : Yields .insideTag
      (values.flatMap (fun value => ' ' :: render value) ++ '$' :: '}' :: after)
      (fun tokens => List.Forall₂ relates tokens values) .insideTag ('$' :: '}' :: after) := by
    intro offset
    obtain ⟨tokens, htokens, hitems⟩ := exists_itemsFrom_values (fun _ => [' ']) render
      (fun _ _ => isGap_blank) h (.dollar ('}' :: after)) offset
    exact ⟨tokens, _, htokens, hitems⟩
  refine hfront.trans (yields_tagClose after) ?_
  rintro tokens _ htokens ⟨close, rfl, hclose⟩
  exact ⟨tokens, close, rfl, htokens, hclose⟩

/-- A loop tag is read, whatever white space is in it and however its bounds are written. -/
theorem yields_loopTag {α : Type} (gap render : α → Text) (bound : α → Number) {name : Text}
    (hname : isValidName name = true) {start stop : α} {step : Option α}
    (hgap : ∀ value ∈ start :: stop :: step.toList, IsGap (gap value))
    (h : ∀ value ∈ start :: stop :: step.toList,
      IsWritten (fun t value => t.Bounds (bound value)) render value)
    {closing : Text} (hclosing : Blank closing) (after : Text) :
    Yields .outsideTag (loopTag name ((start :: stop :: step.toList).flatMap
        fun value => gap value ++ render value) ++ (closing ++ '$' :: '}' :: after))
      (LoopHeader.Opens ⟨name, bound start, bound stop, step.map bound⟩) .outsideTag after := by
  have hlength : (start :: stop :: step.toList).length ≤ 3 := by cases step <;> simp
  have hstep : (step.toList.map bound).head? = step.map bound := by cases step <;> rfl
  have hbounds : Yields .outsideTag (loopTag name ((start :: stop :: step.toList).flatMap
        fun value => gap value ++ render value) ++ (closing ++ '$' :: '}' :: after))
      (fun tokens => ∃ opened, Place.Reads
        (.loopBounds opened name ((start :: stop :: step.toList).map bound)) tokens)
      .insideTag ('$' :: '}' :: after) := by
    intro offset
    obtain ⟨tokens, hreads, hitems⟩ := exists_itemsFrom_loopTag gap render bound hname hlength hgap
      h (hclosing.delimits (.dollar ('}' :: after))) offset
    rw [itemsFrom_gap hclosing] at hitems
    exact ⟨tokens, _, ⟨offset, hreads⟩, hitems⟩
  refine hbounds.trans (yields_tagClose after) ?_
  rintro tokens _ ⟨opened, hreads⟩ ⟨close, rfl, hclose⟩
  rw [← hstep]
  exact hreads.opens hclose

theorem yields_header {header : LoopHeader} (hname : isValidName header.name = true)
    (hbounds : ∀ bound ∈ header.bounds, bound.IsFinite) (after : Text) :
    Yields .outsideTag (header.render ++ after) header.Opens .outsideTag after := by
  have hrender : header.render ++ after = loopTag header.name
      (header.bounds.flatMap fun bound => ' ' :: bound.render) ++ '$' :: '}' :: after := by
    simp [LoopHeader.render, loopTag]
  have hopens := yields_loopTag (fun _ => [' ']) Number.render id hname (fun _ _ => isGap_blank)
    (fun bound hbound => Number.isWritten (hbounds bound hbound)) .nil after
  rw [Option.map_id] at hopens
  rw [hrender]
  exact hopens

theorem itemsFrom_renderEnd (offset : Nat) (after : Text) :
    itemsFrom .outsideTag offset (renderEnd ++ after) =
      .ok ⟨.tagOpen, none, offset⟩ :: .ok ⟨.name, some (.text ['E', 'N', 'D']), offset + 2⟩ ::
        .ok ⟨.tagClose, none, offset + 2 + 3⟩ :: itemsFrom .outsideTag (offset + 2 + 3 + 2) after := by
  have htag : IsWord ('$' :: '}' :: after) ['E', 'N', 'D'] :=
    isWord_of_isValidName (by decide) (.dollar _)
  have hrender : renderEnd ++ after = '{' :: '$' :: (['E', 'N', 'D'] ++ '$' :: '}' :: after) := rfl
  rw [hrender, itemsFrom_tagOpen, itemsFrom_insideTag _ (.name htag) (by decide) (by decide)]
  exact congrArg (fun items => _ :: _ :: items) (itemsFrom_tagClose (offset + 2 + 3) after)

theorem yields_end (after : Text) :
    Yields .outsideTag (renderEnd ++ after) EndsLoop .outsideTag after := by
  intro offset
  have hends : EndsLoop [⟨.tagOpen, none, offset⟩,
      ⟨.name, some (.text ['E', 'N', 'D']), offset + 2⟩, ⟨.tagClose, none, offset + 2 + 3⟩] :=
    .intro rfl ⟨_, .intro _ _, by decide⟩ rfl
  exact ⟨_, offset + 2 + 3 + 2, hends, itemsFrom_renderEnd offset after⟩

theorem Yields.loop {source inner after : Text} {header : LoopHeader} {body : List Node}
    (hopening : Yields .outsideTag source header.Opens .outsideTag inner)
    (hinner : Yields .outsideTag inner (Node.LinearisesAll body) .outsideTag (renderEnd ++ after)) :
    Yields .outsideTag source (Node.loop header body).Linearises .outsideTag after := by
  have htail : Yields .outsideTag inner (fun tokens => ∃ front ending, tokens = front ++ ending ∧
      Node.LinearisesAll body front ∧ EndsLoop ending) .outsideTag after :=
    hinner.trans (yields_end after) fun front ending hfront hending =>
      ⟨front, ending, rfl, hfront, hending⟩
  refine hopening.trans htail ?_
  rintro opening _ hopens ⟨front, ending, rfl, hfront, hending⟩
  rw [← List.append_assoc]
  exact .loop hopens hfront hending

theorem yields_echo {elements : List Element} (h : ∀ element ∈ elements, element.WellFormed)
    (after : Text) :
    Yields .outsideTag (renderEcho elements ++ after) (Node.echo elements).Linearises .outsideTag
      after := by
  intro offset
  let values := elements.flatMap fun element => ' ' :: element.render
  have hrender : renderEcho elements ++ after =
      '{' :: '$' :: (['='] ++ (values ++ '$' :: '}' :: after)) := by
    simp [renderEcho, values]
  have hvalues : ∀ element ∈ elements, IsWritten Token.Denotes Element.render element :=
    fun element helement => Element.isWritten (h element helement)
  obtain ⟨_, offset', ⟨front, close, rfl, hfront, hclose⟩, hitems⟩ :=
    yields_values hvalues after (offset + 2 + 1)
  have hecho : (Node.echo elements).Linearises (⟨.tagOpen, none, offset⟩ ::
      ⟨.name, some (.text ['=']), offset + 2⟩ :: (front ++ [close])) :=
    .echo rfl (.intro _ _) hfront hclose
  refine ⟨_, offset', hecho, ?_⟩
  rw [hrender, itemsFrom_tagOpen, itemsFrom_insideTag _ (.equals _) (by decide) (by decide)]
  exact congrArg (fun items => _ :: _ :: items) hitems

theorem yields_text {content : Text} (hne : content ≠ []) {after : Text}
    (hafter : after = [] ∨ ['{', '$'] <+: after) :
    Yields .outsideTag (escapeText content ++ after) (Node.text content).Linearises .outsideTag
      after := by
  intro offset
  exact ⟨_, _, .text content offset,
    itemsFrom_of_spelling offset (spelling_escapeText hne hafter) (by decide) (by decide)⟩

theorem Node.opens_renderBefore {node : Node} (h : node.isText = false) (after : Text) :
    ['{', '$'] <+: node.renderBefore after := by
  cases node with
  | text content => contradiction
  | echo elements => exact ⟨_, rfl⟩
  | loop header body => exact ⟨_, rfl⟩

mutual

theorem Node.yields :
    (node : Node) → (hwell : node.WellFormed) → (hbuilt : node.Built) → {after : Text} →
      (hafter : node.isText = true → after = [] ∨ ['{', '$'] <+: after) →
      Yields .outsideTag (node.renderBefore after) node.Linearises .outsideTag after
  | .text content, hwell, _, after, hafter => yields_text hwell (hafter rfl)
  | .echo elements, hwell, _, after, _ => yields_echo hwell after
  | .loop header body, hwell, hbuilt, after, _ => by
      obtain ⟨hname, hbody⟩ := Node.built_loop_iff.mp hbuilt
      have hafter : ['{', '$'] <+: renderEnd ++ after := ⟨_, rfl⟩
      exact (yields_header hname hwell.1 _).loop (Node.yieldsAll body hwell.2 hbody (.inr hafter))

theorem Node.yieldsAll :
    (nodes : List Node) → (hwell : Node.AllWellFormed nodes) →
      (hbuilt : ∀ node ∈ nodes, node.Built) → {after : Text} →
      (hafter : after = [] ∨ ['{', '$'] <+: after) →
      Yields .outsideTag (Node.renderAllBefore after nodes) (Node.LinearisesAll nodes) .outsideTag
        after
  | [], _, _, after, _ => fun offset => ⟨[], offset, .nil, rfl⟩
  | node :: nodes, hwell, hbuilt, after, hafter => by
      obtain ⟨hnode, hapart, hnodes⟩ := hwell
      rw [List.forall_mem_cons] at hbuilt
      have hnext : node.isText = true →
          Node.renderAllBefore after nodes = [] ∨
            ['{', '$'] <+: Node.renderAllBefore after nodes := by
        intro htext
        cases nodes with
        | nil => exact hafter
        | cons next nodes =>
            have hnext : next.isText = false := by
              rw [Bool.eq_false_iff]
              exact fun hnext => hapart ⟨htext, hnext⟩
            exact .inr (Node.opens_renderBefore hnext _)
      exact (Node.yields node hnode hbuilt.1 hnext).trans
        (Node.yieldsAll nodes hnodes hbuilt.2 hafter) (fun _ _ hnode hnodes => .cons hnode hnodes)

end

namespace Document

theorem parse_of_yields {options : ParseOptions} {source : Text} {d : Document}
    (h : Yields .outsideTag source (Node.LinearisesAll d.children) .outsideTag []) :
    parse options source = .ok d := by
  obtain ⟨tokens, offset, hlinearises, hitems⟩ := h 0
  rw [itemsFrom_nil] at hitems
  have htokens : tokenize source = .ok (tokens ++ [⟨.endOfInput, none, offset⟩]) := by
    rw [tokenize_eq, collect_eq_ok_iff, List.map_append, List.map_singleton]
    exact hitems
  exact parse_of_linearises options htokens rfl hlinearises

theorem parse_render {d : Document} (hwell : d.WellFormed) (hbuilt : d.Built) :
    parse {} d.render = .ok d :=
  parse_of_yields (Node.yieldsAll d.children hwell hbuilt (.inl rfl))

end Document

end TagMarkup
