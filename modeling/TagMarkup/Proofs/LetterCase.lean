import Mathlib
import TagMarkup.Proofs.InStep

namespace TagMarkup

open Unicode

/-- A class of characters in which the two cases of ASCII letters are not told apart. -/
def IgnoresCase (p : Char → Bool) : Prop :=
  ∀ c, p c.toUpper = p c

theorem IgnoresCase.of_ascii {p : Char → Bool}
    (h : ∀ n < 128, p (Char.ofNat n).toUpper = p (Char.ofNat n)) : IgnoresCase p := by
  intro c
  obtain hascii | hbeyond := Nat.lt_or_ge c.toNat 128
  · exact Unicode.of_ascii (p := fun c => p c.toUpper = p c) h hascii
  · rw [toUpper_of_le hbeyond]

theorem ignoresCase_isNameStart : IgnoresCase isNameStart :=
  .of_ascii (by decide)

theorem ignoresCase_stops :
    ∀ p ∈ [isNameRest, isNumberRest, Char.isDigit], IgnoresCase p := by
  simp only [List.forall_mem_cons, List.not_mem_nil, false_implies, implies_true, and_true]
  exact ⟨.of_ascii (by decide), .of_ascii (by decide), .of_ascii (by decide)⟩

/-- Texts that differ in the case of ASCII letters only. -/
def SameLetters (t u : Text) : Prop :=
  t.map Char.toUpper = u.map Char.toUpper

namespace SameLetters

variable {t u : Text}

theorem refl (t : Text) : SameLetters t t :=
  rfl

theorem length_eq (h : SameLetters t u) : t.length = u.length := by
  simpa using congrArg List.length h

theorem head?_any {p : Char → Bool} (hp : IgnoresCase p) (h : SameLetters t u) :
    t.head?.any p = u.head?.any p := by
  have hupper (t : Text) : (t.map Char.toUpper).head?.any p = t.head?.any p := by
    cases t with
    | nil => rfl
    | cons c rest => exact hp c
  rw [← hupper t, ← hupper u, h]

theorem forall_mem {p : Char → Bool} (hp : IgnoresCase p) (h : SameLetters t u)
    (ht : ∀ c ∈ t, p c = true) : ∀ c ∈ u, p c = true := by
  intro c hc
  have hmem : c.toUpper ∈ t.map Char.toUpper := h ▸ List.mem_map_of_mem hc
  obtain ⟨d, hd, hupper⟩ := List.mem_map.mp hmem
  rw [← hp c, ← hupper, hp d]
  exact ht d hd

theorem append {t' u' : Text} (h : SameLetters t u) (h' : SameLetters t' u') :
    SameLetters (t ++ t') (u ++ u') := by
  rw [SameLetters, List.map_append, List.map_append, h, h']

theorem opens_tag (h : SameLetters t u) (ht : ['{', '$'] <+: t) : ['{', '$'] <+: u := by
  have hmark {c d : Char} (hc : IgnoresCase (· == c)) (hd : d.toUpper = c) : d = c := by
    simpa [hd] using (hc d).symm
  obtain ⟨rest, rfl⟩ := ht
  obtain ⟨c, more, rfl, hc, hmore⟩ := List.map_eq_cons_iff.mp h.symm
  obtain ⟨d, rest', rfl, hd, -⟩ := List.map_eq_cons_iff.mp hmore
  obtain rfl := hmark (.of_ascii (by decide)) hc
  obtain rfl := hmark (.of_ascii (by decide)) hd
  exact ⟨rest', rfl⟩

end SameLetters

section Spelling

variable {kind : TokenKind} {value : Option TokenValue} {lexeme lexeme' after after' : Text}

theorem LiteralText.of_sameLetters {content : Text} (h : LiteralText after lexeme content)
    (hafter : SameLetters after after') : LiteralText after' lexeme content := by
  induction h with
  | nil => exact .nil
  | escape hc hrest ih => exact .escape hc ih
  | @plain c lexeme content hc htag hrest ih =>
      have hsame : SameLetters (c :: (lexeme ++ after')) (c :: (lexeme ++ after)) :=
        (SameLetters.refl (c :: lexeme)).append hafter.symm
      exact .plain hc (fun hopens => htag (hsame.opens_tag hopens)) ih

/-- The case of the letters after a token does not matter to its spelling. -/
theorem Spelling.of_sameLetters (h : Spelling kind value lexeme after)
    (hafter : SameLetters after after') : Spelling kind value lexeme after' := by
  by_cases htext : kind = .text
  · subst htext
    cases h with
    | text hrun hne hend =>
        refine .text (hrun.of_sameLetters hafter) hne ?_
        obtain rfl | hopens := hend
        · exact .inl (List.map_eq_nil_iff.mp hafter.symm)
        · exact .inr (hafter.opens_tag hopens)
  by_cases hend : kind = .endOfInput
  · subst hend
    cases h
    obtain rfl : after' = [] := List.map_eq_nil_iff.mp hafter.symm
    exact .endOfInput
  · refine h.of_stops htext hend fun p hp hstop => ?_
    rwa [← hafter.head?_any (ignoresCase_stops p hp)]

theorem IsWord.of_sameLetters (h : IsWord after lexeme) (hlexeme : SameLetters lexeme lexeme')
    (hafter : SameLetters after after') : IsWord after' lexeme' := by
  have hrest : IgnoresCase isNameRest := ignoresCase_stops _ List.mem_cons_self
  cases lexeme with
  | nil => exact h.elim
  | cons c run =>
      obtain ⟨hc, hrun, hstop⟩ := h
      obtain ⟨d, run', rfl, hupper, hrun'⟩ := List.map_eq_cons_iff.mp hlexeme.symm
      refine ⟨?_, SameLetters.forall_mem hrest (Eq.symm hrun') hrun, ?_⟩
      · rw [← ignoresCase_isNameStart d, hupper, ignoresCase_isNameStart c, hc]
      · rwa [← hafter.head?_any hrest]

end Spelling

theorem Spelling.lexeme_of_isName {t : Token} {name lexeme after : Text}
    (h : Spelling t.kind t.value lexeme after) (hname : t.IsName name) : lexeme = name := by
  cases hname
  cases h <;> rfl

theorem exists_getElem?_ne {t u : Text} (hlength : t.length = u.length) (hne : t ≠ u) :
    ∃ i < t.length, t[i]? ≠ u[i]? := by
  by_contra hsame
  push Not at hsame
  refine hne (List.ext_getElem?' fun i hi => hsame i ?_)
  rwa [← hlength, Nat.max_self] at hi

theorem getElem?_append_add (front back : Text) (i : Nat) :
    (front ++ back)[front.length + i]? = back[i]? := by
  rw [List.getElem?_append_right (Nat.le_add_right _ _), Nat.add_sub_cancel_left]

/-- A token that comes right after the mark that opens a tag. -/
def BeginsTag (items : List (Except LexError Token)) (t : Token) : Prop :=
  ∃ (front : List Token) (mark : Token) (rest : List (Except LexError Token)),
    items = front.map .ok ++ .ok mark :: .ok t :: rest ∧ mark.kind = .tagOpen

/-- A name token whose name is that of a loop tag, or of the tag that ends a loop, but for the case of
ASCII letters. -/
def Token.NamesLoopTag (t : Token) (name : Text) : Prop :=
  t.IsName name ∧ name.map Char.toUpper ∈ loopTagNames

/-- A source, and the same with some ASCII letters in the other case, all of them in the names of its
loop tags. -/
structure Recased (source other : Text) : Prop where
  sameLetters : SameLetters source other
  inTagName (i : Nat) (h : other[i]? ≠ source[i]?) :
    ∃ t name, BeginsTag (Lexer.ofSource source).items t ∧ t.NamesLoopTag name ∧ t.offset ≤ i ∧
      i < t.offset + name.length

/-- The tokens that begin tags in what is left of a stream, where `opened` tells whether the mark
that opens a tag came last. -/
def BeginsTagFrom (opened : Bool) (items : List (Except LexError Token)) (t : Token) : Prop :=
  opened = true ∧ items.head? = some (.ok t) ∨ BeginsTag items t

/-- What is left of a source at a place, and the same with some letters in the names of its loop tags
in the other case. -/
structure RecasedFrom (opened : Bool) (m : Mode) (offset : Nat) (source other : Text) : Prop where
  sameLetters : SameLetters source other
  inTagName (i : Nat) (h : other[i]? ≠ source[i]?) :
    ∃ t name, BeginsTagFrom opened (itemsFrom m offset source) t ∧ t.NamesLoopTag name ∧
      t.offset ≤ offset + i ∧ offset + i < t.offset + name.length

theorem Recased.start {source other : Text} (h : Recased source other) :
    RecasedFrom false .outsideTag 0 source other := by
  refine ⟨h.sameLetters, fun i hi => ?_⟩
  obtain ⟨t, name, hbegins, hname, hfirst, hlast⟩ := h.inTagName i hi
  exact ⟨t, name, .inr hbegins, hname, by omega, by omega⟩

theorem BeginsTagFrom.of_cons {opened : Bool} {t u : Token} {items : List (Except LexError Token)}
    (h : BeginsTagFrom opened (.ok t :: items) u) :
    opened = true ∧ u = t ∨ BeginsTagFrom (t.kind == .tagOpen) items u := by
  obtain ⟨hopened, hhead⟩ | ⟨front, mark, rest, hitems, hmark⟩ := h
  · cases hhead
    exact .inl ⟨hopened, rfl⟩
  · cases front with
    | nil =>
        obtain ⟨hhead, rfl⟩ := List.cons_eq_cons.mp hitems
        cases hhead
        exact .inr (.inl ⟨beq_iff_eq.mpr hmark, rfl⟩)
    | cons v front =>
        exact .inr (.inr ⟨front, mark, rest, (List.cons_eq_cons.mp hitems).2, hmark⟩)

theorem BeginsTagFrom.offset_le {opened : Bool} {m : Mode} {offset : Nat} {source : Text}
    {t : Token} (h : BeginsTagFrom opened (itemsFrom m offset source) t) : offset ≤ t.offset := by
  obtain ⟨-, hhead⟩ | ⟨front, mark, rest, hitems, -⟩ := h
  · obtain ⟨items, hitems⟩ := List.head?_eq_some_iff.mp hhead
    have hfront : itemsFrom m offset source = [t].map .ok ++ items := hitems
    exact (pairwise_offset_of_itemsFrom hfront).2 t List.mem_cons_self
  · have hfront : itemsFrom m offset source = (front ++ [mark, t]).map .ok ++ rest := by
      simp [hitems]
    exact (pairwise_offset_of_itemsFrom hfront).2 t (by simp)

namespace RecasedFrom

variable {opened : Bool} {m : Mode} {offset : Nat} {source other : Text} {t : Token}

/-- Where no tag begins, the sources are the same. -/
theorem eq_of_not_beginsTag (h : RecasedFrom opened m offset source other)
    (hnone : ∀ t name, BeginsTagFrom opened (itemsFrom m offset source) t → ¬t.NamesLoopTag name) :
    other = source := by
  apply List.ext_getElem?
  intro i
  by_contra hi
  obtain ⟨t, name, hbegins, hname, -⟩ := h.inTagName i hi
  exact hnone t name hbegins hname

/-- Where two sources may differ: within the first token, if it names a loop tag after the mark that
opens one, or in what comes after that token. -/
theorem locate (h : RecasedFrom opened m offset source other) {n : Nat} {after : Text}
    (hitems : itemsFrom m offset source =
      .ok t :: itemsFrom (m.after t.kind) (offset + n) after)
    (hlength : ∀ name, t.NamesLoopTag name → t.offset + name.length = offset + n) {i : Nat}
    (hi : other[i]? ≠ source[i]?) :
    (opened = true ∧ (∃ name, t.NamesLoopTag name) ∧ t.offset ≤ offset + i ∧ i < n) ∨
      n ≤ i ∧ ∃ u name,
        BeginsTagFrom (t.kind == .tagOpen) (itemsFrom (m.after t.kind) (offset + n) after) u ∧
          u.NamesLoopTag name ∧ u.offset ≤ offset + i ∧ offset + i < u.offset + name.length := by
  obtain ⟨u, name, hbegins, hname, hfirst, hlast⟩ := h.inTagName i hi
  rw [hitems] at hbegins
  obtain ⟨hopened, rfl⟩ | hlater := hbegins.of_cons
  · have hend := hlength name hname
    exact .inl ⟨hopened, ⟨name, hname⟩, hfirst, by omega⟩
  · have hoffset := hlater.offset_le
    exact .inr ⟨by omega, u, name, hlater, hname, hfirst, hlast⟩

/-- Past the first token the sources go on to differ in the names of loop tags only, and that token
differs only if it is such a name. -/
theorem next (h : RecasedFrom opened m offset source other) {gap lexeme after : Text}
    (hsource : source = gap ++ (lexeme ++ after)) (hoffset : t.offset = offset + gap.length)
    (hspelling : Spelling t.kind t.value lexeme after)
    (hitems : itemsFrom m offset source =
      .ok t :: itemsFrom (m.after t.kind) (offset + (gap.length + lexeme.length)) after) :
    ∃ lexeme' after', other = gap ++ (lexeme' ++ after') ∧ SameLetters lexeme lexeme' ∧
      (lexeme' ≠ lexeme → opened = true ∧ ∃ name, t.NamesLoopTag name) ∧
      RecasedFrom (t.kind == .tagOpen) (m.after t.kind)
        (offset + (gap.length + lexeme.length)) after after' := by
  have hlocate {i : Nat} := h.locate (i := i) hitems fun name hname => by
    rw [← hspelling.lexeme_of_isName hname.1]
    omega
  have hletters := h.sameLetters.symm
  subst hsource
  rw [List.map_append, List.map_append] at hletters
  obtain ⟨gap', rest, rfl, hgap, hrest⟩ := List.map_eq_append_iff.mp hletters
  obtain ⟨lexeme', after', rfl, hlexeme, hafter⟩ := List.map_eq_append_iff.mp hrest
  have hgaplength : gap'.length = gap.length := by simpa using congrArg List.length hgap
  have hlexemelength : lexeme'.length = lexeme.length := by
    simpa using congrArg List.length hlexeme
  obtain rfl : gap' = gap := by
    by_contra hne
    obtain ⟨i, hi, hdiffer⟩ := exists_getElem?_ne hgaplength hne
    have hplace := @hlocate i (by
      rwa [List.getElem?_append_left hi, List.getElem?_append_left (hgaplength ▸ hi)])
    omega
  refine ⟨lexeme', after', rfl, hlexeme.symm, fun hne => ?_, hafter.symm, fun i hi => ?_⟩
  · obtain ⟨i, hi, hdiffer⟩ := exists_getElem?_ne hlexemelength hne
    have hplace := @hlocate (gap'.length + i) (by
      rwa [getElem?_append_add, getElem?_append_add, List.getElem?_append_left hi,
        List.getElem?_append_left (hlexemelength ▸ hi)])
    obtain ⟨hopened, hname, -⟩ | ⟨hbeyond, -⟩ := hplace
    · exact ⟨hopened, hname⟩
    · omega
  · have hplace := @hlocate (gap'.length + (lexeme'.length + i)) (by
      rw [getElem?_append_add, getElem?_append_add, getElem?_append_add, hlexemelength,
        getElem?_append_add]
      exact hi)
    obtain ⟨-, -, -, hwithin⟩ | ⟨-, u, name, hbegins, hname, hfirst, hlast⟩ := hplace
    · omega
    · exact ⟨u, name, hbegins, hname, by omega, by omega⟩

end RecasedFrom

theorem not_beginsTagFrom_error {opened : Bool} {e : LexError}
    {items : List (Except LexError Token)} {t : Token} :
    ¬BeginsTagFrom opened (.error e :: items) t := by
  rintro (⟨-, hhead⟩ | ⟨front, mark, rest, hitems, -⟩)
  · cases hhead
  · cases front <;> cases hitems

theorem not_beginsTagFrom_nil {opened : Bool} {t : Token} : ¬BeginsTagFrom opened [] t := by
  rintro (⟨-, hhead⟩ | ⟨front, mark, rest, hitems, -⟩)
  · cases hhead
  · cases front <;> cases hitems

/-- Streams of the same tokens, but for the letters of the names of loop tags. `opened` tells
whether the mark that opens a tag came last. -/
inductive SameButNames :
    Bool → List (Except LexError Token) → List (Except LexError Token) → Prop
  | refl (opened : Bool) (items : List (Except LexError Token)) : SameButNames opened items items
  | cons {opened : Bool} {t : Token} {items items' : List (Except LexError Token)}
      (hrest : SameButNames (t.kind == .tagOpen) items items') :
      SameButNames opened (.ok t :: items) (.ok t :: items')
  | name {t u : Token} {n : TagName} {items items' : List (Except LexError Token)}
      (ht : t.IsTagName n.upper) (hu : u.IsTagName n.upper) (hoffset : u.offset = t.offset)
      (hrest : SameButNames false items items') :
      SameButNames true (.ok t :: items) (.ok u :: items')

theorem exists_upper {name : Text} (h : name.map Char.toUpper ∈ loopTagNames) :
    ∃ n : TagName, name.map Char.toUpper = n.upper := by
  obtain hloop | hend := List.mem_pair.mp h
  · exact ⟨.loop, hloop⟩
  · exact ⟨.endLoop, hend⟩

theorem RecasedFrom.sameButNames {opened : Bool} {m : Mode} {offset : Nat} {source other : Text}
    (h : RecasedFrom opened m offset source other) :
    SameButNames opened (itemsFrom m offset source) (itemsFrom m offset other) := by
  induction m, offset, source using itemsFrom_induction generalizing opened other with
  | error hread =>
      obtain rfl := h.eq_of_not_beginsTag fun t name hbegins => by
        rw [itemsFrom_of_error hread] at hbegins
        exact (not_beginsTagFrom_error hbegins).elim
      exact .refl _ _
  | endOfInput hread hkind =>
      obtain rfl := h.eq_of_not_beginsTag fun t name hbegins hname => by
        rw [itemsFrom_of_endOfInput hread hkind] at hbegins
        obtain ⟨-, rfl⟩ | hlater := hbegins.of_cons
        · exact hname.1.isInner.ne_endOfInput hkind
        · exact not_beginsTagFrom_nil hlater
      exact .refl _ _
  | @token m offset source t hread hkind ih =>
      obtain ⟨gap, lexeme, hsource, hblank, hgap, hoffset, hwidth, hadmits, hspelling⟩ :=
        Lexeme.exists_spelling_of_read hread
      have hitems := itemsFrom_of_token hread hkind
      rw [hwidth] at hitems ih
      generalize (Lexeme.read m offset source).rest = after at *
      obtain ⟨lexeme', after', rfl, hlexeme, hnames, hnext⟩ :=
        h.next hsource hoffset hspelling hitems
      rw [hitems]
      by_cases hsame : lexeme' = lexeme
      · subst hsame
        have hspelling' := hspelling.of_sameLetters hnext.sameLetters
        rw [itemsFrom_of_gap offset hblank hgap hspelling' hadmits hkind, ← hoffset]
        exact .cons (ih hnext)
      · obtain ⟨rfl, name, ⟨⟩, hupper⟩ := hnames hsame
        obtain rfl := hspelling.lexeme_of_isName (t := ⟨.name, some (.text name), _⟩) (.intro _ _)
        have hrun : IsWord after lexeme := by
          cases hspelling with
          | equals => simp [loopTagNames] at hupper
          | name hrun => exact hrun
        obtain ⟨n, hn⟩ := exists_upper hupper
        have hspelling' := Spelling.name (hrun.of_sameLetters hlexeme hnext.sameLetters)
        have hmatch {name : Text} (hname : name.map Char.toUpper = n.upper) :
            name.flatMap uppercase = n.upper :=
          (flatMap_uppercase_eq_iff (hn ▸ hupper)).mpr hname
        rw [itemsFrom_of_gap offset hblank hgap hspelling' hadmits hkind, ← hlexeme.length_eq]
        exact .name ⟨lexeme, .intro _ _, hmatch hn⟩
          ⟨lexeme', .intro _ _, hmatch (hlexeme.symm.trans hn)⟩ hoffset.symm (ih hnext)

theorem Assembly.Takes.place_of_tagOpen {a next : Assembly} {t : Token} {events : List Event}
    (h : Takes a t events next) (hkind : t.kind = .tagOpen) :
    next.place = .tagName t.offset := by
  cases h with
  | text => cases hkind
  | mark => rfl
  | tag n hplace hname => exact (hname.isInner.ne_tagOpen hkind).elim
  | element hplace helement => exact (helement.isInner.ne_tagOpen hkind).elim
  | subject hplace hname => exact (hname.isInner.ne_tagOpen hkind).elim
  | bound hplace hlength hbound => exact (hbound.isInner.ne_tagOpen hkind).elim
  | closeEcho hplace hclose => cases hkind.symm.trans hclose
  | openLoop hplace hclose => cases hkind.symm.trans hclose
  | closeLoop hplace hclose => cases hkind.symm.trans hclose

/-- A parse does not tell the letters of a tag name apart. -/
theorem SameButNames.run_eq {opened : Bool} {items items' : List (Except LexError Token)}
    (h : SameButNames opened items items') {a : Assembly}
    (hplace : opened = true → ∃ start, a.place = .tagName start) (options : ParseOptions)
    (offset : Nat) : a.run options offset items' = a.run options offset items := by
  induction h generalizing a offset with
  | refl => rfl
  | @cons opened t items items' hrest ih =>
      rw [Assembly.run, Assembly.run]
      cases hstep : a.step options t with
      | done events result => rfl
      | go events next =>
          have htakes := Assembly.step_eq_go_iff.mp hstep
          dsimp only
          rw [ih fun hkind => ⟨_, htakes.place_of_tagOpen (beq_iff_eq.mp hkind)⟩]
  | @name t u n items items' ht hu hoffset hrest ih =>
      obtain ⟨start, hstart⟩ := hplace rfl
      have hstep : a.step options t = .go [] _ := Assembly.step_of_takes (.tag n hstart ht)
      have hstep' : a.step options u = .go [] _ := Assembly.step_of_takes (.tag n hstart hu)
      obtain ⟨_, ⟨⟩, -⟩ := ht
      obtain ⟨_, ⟨⟩, -⟩ := hu
      obtain rfl := hoffset
      rw [Assembly.run, Assembly.run, hstep, hstep']
      dsimp only
      rw [ih (by simp)]

theorem Document.trace_recased {source other : Text} (h : Recased source other)
    (options : ParseOptions) : trace options other = trace options source :=
  h.start.sameButNames.run_eq (by simp) options 0

/-- Names of loop tags are matched by their ASCII letters in either case, and by nothing else. -/
theorem tagNames_ignore_letterCase :
    (∀ name : Text, name.flatMap uppercase = ['F', 'O', 'R'] ↔
      name.map Char.toUpper = ['F', 'O', 'R']) ∧
    (∀ name : Text, name.flatMap uppercase = ['E', 'N', 'D'] ↔
      name.map Char.toUpper = ['E', 'N', 'D']) ∧
    (∀ name : Text, name.flatMap uppercase = ['='] ↔ name = ['=']) ∧
    (∀ (name : Text) (n : TagName), TagName.ofText? name = some n → ∀ c ∈ name, c.toNat < 128) ∧
    ∀ source other, Recased source other → ∀ options,
      Document.parse options other = Document.parse options source := by
  refine ⟨fun name => flatMap_uppercase_eq_iff (by decide),
    fun name => flatMap_uppercase_eq_iff (by decide), fun name => flatMap_uppercase_eq_equals_iff,
    fun name n h => ?_, fun source other h options => ?_⟩
  · have hupper := TagName.ofText?_eq_some_iff.mp h
    cases n with
    | echo =>
        obtain rfl := flatMap_uppercase_eq_equals_iff.mp hupper
        exact List.forall_mem_singleton.mpr (by decide)
    | loop => exact ascii_of_flatMap_uppercase (by decide) hupper
    | endLoop => exact ascii_of_flatMap_uppercase (by decide) hupper
  · exact congrArg Prod.snd (Document.trace_recased h options)

/-- A loop with the letters of its two tag names in the other case. The variable keeps its own. -/
theorem tagNames_ignore_letterCase_loop :
    Recased "{$FOR f 1 2$}{$END$}".toList "{$for f 1 2$}{$eNd$}".toList ∧
    Document.parse {} "{$for f 1 2$}{$eNd$}".toList =
      .ok ⟨[.loop ⟨['f'], .integer 1, .integer 2, none⟩ []]⟩ := by
  have hitems : (Lexer.ofSource "{$FOR f 1 2$}{$END$}".toList).items =
      [.ok ⟨.tagOpen, none, 0⟩, .ok ⟨.name, some (.text ['F', 'O', 'R']), 2⟩,
        .ok ⟨.name, some (.text ['f']), 6⟩, .ok ⟨.integer, some (.integer 1), 8⟩,
        .ok ⟨.integer, some (.integer 2), 10⟩, .ok ⟨.tagClose, none, 11⟩,
        .ok ⟨.tagOpen, none, 13⟩, .ok ⟨.name, some (.text ['E', 'N', 'D']), 15⟩,
        .ok ⟨.tagClose, none, 18⟩, .ok ⟨.endOfInput, none, 20⟩] := by
    cbv
  have hparse : Document.parse {} "{$FOR f 1 2$}{$END$}".toList =
      .ok ⟨[.loop ⟨['f'], .integer 1, .integer 2, none⟩ []]⟩ := by
    cbv
  have hrecased : Recased "{$FOR f 1 2$}{$END$}".toList "{$for f 1 2$}{$eNd$}".toList := by
    have hwithin : ∀ i < 20, "{$for f 1 2$}{$eNd$}".toList[i]? ≠ "{$FOR f 1 2$}{$END$}".toList[i]? →
        2 ≤ i ∧ i < 5 ∨ 15 ≤ i ∧ i < 18 := by
      decide
    refine ⟨by unfold SameLetters; decide, fun i hi => ?_⟩
    rw [hitems]
    obtain hshort | hlong := Nat.lt_or_ge i 20
    · obtain ⟨hfirst, hlast⟩ | ⟨hfirst, hlast⟩ := hwithin i hshort hi
      · exact ⟨⟨.name, some (.text ['F', 'O', 'R']), 2⟩, _, ⟨[], _, _, rfl, rfl⟩,
          ⟨.intro _ _, by decide⟩, hfirst, hlast⟩
      · exact ⟨⟨.name, some (.text ['E', 'N', 'D']), 15⟩, _,
          ⟨[⟨.tagOpen, none, 0⟩, ⟨.name, some (.text ['F', 'O', 'R']), 2⟩,
            ⟨.name, some (.text ['f']), 6⟩, ⟨.integer, some (.integer 1), 8⟩,
            ⟨.integer, some (.integer 2), 10⟩, ⟨.tagClose, none, 11⟩], _, _, rfl, rfl⟩,
          ⟨.intro _ _, by decide⟩, hfirst, hlast⟩
    · have hend (t : Text) (ht : t.length = 20) : t[i]? = none :=
        List.getElem?_eq_none (ht ▸ hlong)
      exact absurd ((hend _ (by decide)).trans (hend _ (by decide)).symm) hi
  obtain ⟨-, -, -, -, hparses⟩ := tagNames_ignore_letterCase
  exact ⟨hrecased, (hparses _ _ hrecased {}).trans hparse⟩

end TagMarkup
