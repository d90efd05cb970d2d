import Mathlib.Data.List.Chain
import TagMarkup.Proofs.Grammar
import TagMarkup.Proofs.Tiling

namespace TagMarkup

def Element.WellFormed : Element → Prop
  | .number value => value.IsFinite
  | .string _ => True
  | .variable name => isValidName name = true
  | .function name => isValidName name = true
  | .operator symbol => symbol ∈ [['+'], ['-'], ['*'], ['/'], ['^']]

def Node.isText : Node → Bool
  | text _ => true
  | echo _ => false
  | loop _ _ => false

mutual

def Node.WellFormed : Node → Prop
  | .text content => content ≠ []
  | .echo elements => ∀ element ∈ elements, element.WellFormed
  | .loop header body => (∀ bound ∈ header.bounds, bound.IsFinite) ∧ Node.AllWellFormed body

def Node.AllWellFormed : List Node → Prop
  | [] => True
  | node :: nodes =>
      node.WellFormed ∧ ¬(node.isText = true ∧ nodes.head?.any Node.isText = true) ∧
        Node.AllWellFormed nodes

end

def Document.WellFormed (d : Document) : Prop :=
  Node.AllWellFormed d.children

/-- Trees whose loops have headers that were made from elements. -/
inductive Node.Built : Node → Prop
  | text (content : Text) : Node.Built (.text content)
  | echo (elements : List Element) : Node.Built (.echo elements)
  | loop {name : Text} {start stop : Element} {step : Option Element} {header : LoopHeader}
      {body : List Node} (hheader : LoopHeader.ofElements? name start stop step = some header)
      (hbody : ∀ node ∈ body, node.Built) : Node.Built (.loop header body)

def Document.Built (d : Document) : Prop :=
  ∀ node ∈ d.children, node.Built

theorem LoopHeader.ofElements?_number {header : LoopHeader}
    (hname : isValidName header.name = true) :
    ofElements? header.name (.number header.start) (.number header.stop)
      (header.step.map .number) = some header := by
  obtain ⟨name, start, stop, step⟩ := header
  have hguard : (guard (isValidName name = true) : Option Unit) = some () := if_pos hname
  cases step with
  | none =>
      rw [ofElements?, hguard]
      rfl
  | some step =>
      rw [ofElements?, hguard]
      rfl

theorem LoopHeader.isValidName_of_ofElements? {name : Text} {start stop : Element}
    {step : Option Element} {header : LoopHeader}
    (h : ofElements? name start stop step = some header) : isValidName header.name = true := by
  obtain ⟨checked, hguard, hbounds⟩ := Option.bind_eq_some_iff.mp h
  have hchecked : (if isValidName name = true then some () else none) = some checked := hguard
  have hname : isValidName name = true := (Option.ite_none_right_eq_some.mp hchecked).1
  obtain ⟨first, -, hbounds⟩ := Option.bind_eq_some_iff.mp hbounds
  obtain ⟨second, -, hheader⟩ := Option.bind_eq_some_iff.mp hbounds
  cases step with
  | none =>
      cases hheader
      exact hname
  | some step =>
      obtain ⟨third, -, hheader⟩ := Option.bind_eq_some_iff.mp hheader
      cases hheader
      exact hname

theorem Node.built_loop_iff {header : LoopHeader} {body : List Node} :
    (Node.loop header body).Built ↔
      isValidName header.name = true ∧ ∀ node ∈ body, node.Built := by
  constructor
  · intro h
    cases h with
    | loop hheader hbody => exact ⟨LoopHeader.isValidName_of_ofElements? hheader, hbody⟩
  · rintro ⟨hname, hbody⟩
    exact .loop (LoopHeader.ofElements?_number hname) hbody

def Token.IsSpelled (t : Token) : Prop :=
  ∃ lexeme after, Spelling t.kind t.value lexeme after

def Token.Apart (t u : Token) : Prop :=
  ¬(t.kind = .text ∧ u.kind = .text)

/-- Tokens such as a token stream holds. -/
structure Token.Separated (tokens : List Token) : Prop where
  spelled : ∀ t ∈ tokens, t.IsSpelled
  apart : tokens.IsChain Token.Apart

theorem Token.Separated.append_iff {front back : List Token} :
    Token.Separated (front ++ back) ↔ Token.Separated front ∧ Token.Separated back ∧
      ∀ t ∈ front.getLast?, ∀ u ∈ back.head?, t.Apart u := by
  constructor
  · rintro ⟨hspelled, hapart⟩
    obtain ⟨hfront, hback, hbetween⟩ := List.isChain_append.mp hapart
    rw [List.forall_mem_append] at hspelled
    exact ⟨⟨hspelled.1, hfront⟩, ⟨hspelled.2, hback⟩, hbetween⟩
  · rintro ⟨⟨hspelled, hfront⟩, ⟨hspelled', hback⟩, hbetween⟩
    exact ⟨List.forall_mem_append.mpr ⟨hspelled, hspelled'⟩,
      List.isChain_append.mpr ⟨hfront, hback, hbetween⟩⟩

/-! From tokens to trees. -/

theorem isWord_iff {after lexeme : Text} :
    IsWord after lexeme ↔ isValidName lexeme = true ∧ after.head?.any isNameRest = false := by
  cases lexeme with
  | nil => simp [IsWord, isValidName]
  | cons c run => simp [IsWord, isValidName, and_assoc]

theorem Token.Denotes.wellFormed {t : Token} {element : Element} (h : t.Denotes element)
    (hspelled : t.IsSpelled) : element.WellFormed := by
  obtain ⟨lexeme, after, hspelling⟩ := hspelled
  cases h with
  | integer value => exact .intro
  | double value =>
      cases hspelling with
      | double hrun hvalue => exact Number.isFinite_of_parse? hvalue
  | string content => exact .intro
  | function name =>
      cases hspelling with
      | function hrun => exact (isWord_iff.mp hrun).1
  | operator symbol =>
      cases hspelling with
      | operator hc hminus => simpa [Element.WellFormed] using hc
  | name hname => exact hname

theorem Token.Bounds.isFinite {t : Token} {bound : Number} (h : t.Bounds bound)
    (hspelled : t.IsSpelled) : bound.IsFinite := by
  obtain ⟨lexeme, after, hspelling⟩ := hspelled
  cases h with
  | integer value => exact .intro
  | double value =>
      cases hspelling with
      | double hrun hvalue => exact Number.isFinite_of_parse? hvalue
  | string hbound => exact Number.isFinite_of_parse? hbound

theorem forall_of_forall₂ {α : Type} {relates : Token → α → Prop} {p : α → Prop}
    (hvalue : ∀ t value, relates t value → t.IsSpelled → p value) {tokens : List Token}
    {values : List α} (h : List.Forall₂ relates tokens values)
    (hspelled : ∀ t ∈ tokens, t.IsSpelled) : ∀ value ∈ values, p value := by
  induction h with
  | nil => simp
  | @cons t value tokens values hhead hrest ih =>
      intro other hother
      obtain rfl | hother := List.mem_cons.mp hother
      · exact hvalue t other hhead (hspelled t (by simp))
      · exact ih (fun u hu => hspelled u (by simp [hu])) other hother

theorem LoopHeader.Opens.isFinite {header : LoopHeader} {tokens : List Token}
    (h : header.Opens tokens) (hspelled : ∀ t ∈ tokens, t.IsSpelled) :
    isValidName header.name = true ∧ ∀ bound ∈ header.bounds, bound.IsFinite := by
  cases h with
  | intro hmark htag hsubject hname hbounds hclose =>
      refine ⟨hname, forall_of_forall₂ (fun t bound h => h.isFinite) hbounds ?_⟩
      intro t ht
      exact hspelled t (by simp [ht])

theorem Node.LinearisesAll.exists_text {nodes : List Node} {tokens : List Token}
    (h : LinearisesAll nodes tokens) (htext : nodes.head?.any isText = true) :
    ∃ u rest, tokens = u :: rest ∧ u.kind = .text := by
  cases h with
  | nil => simp at htext
  | cons hnode hnodes =>
      cases hnode with
      | text content offset => exact ⟨_, _, rfl, rfl⟩
      | echo => simp [isText] at htext
      | loop => simp [isText] at htext

mutual

theorem Node.Linearises.wellFormed :
    (node : Node) → {tokens : List Token} → (h : node.Linearises tokens) →
      (htokens : Token.Separated tokens) → node.WellFormed ∧ node.Built
  | .text content, _, h, htokens => by
      cases h with
      | text _ offset =>
          obtain ⟨lexeme, after, hspelling⟩ := htokens.spelled _ (List.mem_singleton_self _)
          refine ⟨?_, .text content⟩
          cases hspelling with
          | text hrun hne hend => exact hrun.content_eq_nil_iff.not.mpr hne
  | .echo elements, _, h, htokens => by
      cases h with
      | echo hmark htag helements hclose =>
          refine ⟨forall_of_forall₂ (fun t element h => h.wellFormed) helements ?_,
            .echo elements⟩
          intro t ht
          exact htokens.spelled t (by simp [ht])
  | .loop header body, _, h, htokens => by
      cases h with
      | loop hopening hinner hending =>
          obtain ⟨hfront, -, -⟩ := Token.Separated.append_iff.mp htokens
          obtain ⟨htag, hbody, -⟩ := Token.Separated.append_iff.mp hfront
          obtain ⟨hname, hbounds⟩ := hopening.isFinite htag.spelled
          obtain ⟨hwell, hbuilt⟩ := Node.LinearisesAll.wellFormed body hinner hbody
          exact ⟨⟨hbounds, hwell⟩, Node.built_loop_iff.mpr ⟨hname, hbuilt⟩⟩

theorem Node.LinearisesAll.wellFormed :
    (nodes : List Node) → {tokens : List Token} → (h : Node.LinearisesAll nodes tokens) →
      (htokens : Token.Separated tokens) →
        Node.AllWellFormed nodes ∧ ∀ node ∈ nodes, node.Built
  | [], _, _, _ => ⟨.intro, by simp⟩
  | node :: nodes, _, h, htokens => by
      cases h with
      | @cons _ _ tokens rest hnode hnodes =>
          obtain ⟨hfront, hback, hbetween⟩ := Token.Separated.append_iff.mp htokens
          obtain ⟨hwell, hbuilt⟩ := Node.Linearises.wellFormed node hnode hfront
          obtain ⟨hwells, hbuilts⟩ := Node.LinearisesAll.wellFormed nodes hnodes hback
          refine ⟨⟨hwell, ?_, hwells⟩, List.forall_mem_cons.mpr ⟨hbuilt, hbuilts⟩⟩
          rintro ⟨htext, hnext⟩
          obtain ⟨u, back, rfl, hu⟩ := hnodes.exists_text hnext
          cases hnode with
          | text content offset => exact hbetween _ rfl u rfl ⟨rfl, hu⟩
          | echo => simp [Node.isText] at htext
          | loop => simp [Node.isText] at htext

end

/-! From sources to tokens. -/

theorem Spelling.not_text_of_text {value next : Option TokenValue} {lexeme lexeme' after : Text}
    (h : Spelling .text value lexeme (lexeme' ++ after)) : ¬Spelling .text next lexeme' after := by
  intro hnext
  cases hnext with
  | text hrun hne hend =>
      have hopen := hrun.opensTag_eq_false hne
      cases h with
      | text hrun' hne' hend' =>
          obtain hnil | htag := hend'
          · exact hne (List.append_eq_nil_iff.mp hnil).1
          · rw [opensTag_iff_starts.mpr htag] at hopen
            contradiction

theorem Piece.Fits.gap_eq_nil_of_text {p : Piece} {m : Mode} {offset : Nat} {after : Text}
    (h : p.Fits m offset after) (hkind : p.token.kind = .text) : p.gap = [] := by
  have hadmits := h.admits
  apply h.gap_outside
  rw [hkind] at hadmits ⊢
  cases m with
  | outsideTag => rfl
  | insideTag => simp [Mode.Admits] at hadmits

theorem TilesFrom.separated {m : Mode} {offset : Nat} {pieces : List Piece}
    (h : TilesFrom m offset pieces) : Token.Separated (pieces.map Piece.token) := by
  induction h with
  | last hfits hkind =>
      exact ⟨by simpa using ⟨_, _, hfits.spelling⟩, .singleton _⟩
  | @cons m offset p pieces hfits hkind hrest ih =>
      refine ⟨List.forall_mem_cons.mpr ⟨⟨_, _, hfits.spelling⟩, ih.spelled⟩,
        List.isChain_cons.mpr ⟨?_, ih.apart⟩⟩
      rintro u hu ⟨hp, hq⟩
      have hspelling := hfits.spelling
      rw [hfits.gap_eq_nil_of_text hp, hp] at hspelling
      cases hrest with
      | last hfits' hkind' =>
          obtain rfl : _ = u := Option.some.inj hu
          rw [hkind'] at hq
          contradiction
      | cons hfits' hkind' hrest' =>
          obtain rfl : _ = u := Option.some.inj hu
          have hnext := hfits'.spelling
          rw [hq] at hnext
          rw [List.nil_append, Piece.source_cons] at hspelling
          exact hspelling.not_text_of_text hnext

theorem separated_of_tokenize {source : Text} {tokens : List Token}
    (h : tokenize source = .ok tokens) : Token.Separated tokens := by
  obtain ⟨pieces, htiling, rfl⟩ := tokenize_eq_ok_iff.mp h
  exact (tiling_iff_tilesFrom.mp htiling).2.separated

theorem separated_endTag : Token.Separated Assembly.endTag where
  spelled := by
    have hword : IsWord [] ['E', 'N', 'D'] := isWord_iff.mpr ⟨by decide, rfl⟩
    simp only [Assembly.endTag, List.forall_mem_cons]
    exact ⟨⟨_, _, .tagOpen []⟩, ⟨_, _, .name hword⟩, ⟨_, _, .tagClose []⟩, by simp⟩
  apart := by simp [Assembly.endTag, Token.Apart]

theorem separated_endTags (missing : Nat) :
    Token.Separated (List.replicate missing Assembly.endTag).flatten := by
  induction missing with
  | zero => exact ⟨by simp, .nil⟩
  | succ missing ih =>
      rw [List.replicate_succ, List.flatten_cons]
      refine Token.Separated.append_iff.mpr ⟨separated_endTag, ih, ?_⟩
      rintro t ht u - ⟨hkind, -⟩
      obtain rfl : _ = t := Option.some.inj ht
      contradiction

namespace Document

/-- Whatever is parsed is well formed, and could have been built from elements. -/
theorem wellFormed_of_parse {options : ParseOptions} {source : Text} {d : Document}
    (h : parse options source = .ok d) : d.WellFormed ∧ d.Built := by
  obtain ⟨front, last, missing, htokens, -, hlinearises, -⟩ := linearises_of_parse h
  obtain ⟨hfront, -, -⟩ := Token.Separated.append_iff.mp (separated_of_tokenize htokens)
  refine Node.LinearisesAll.wellFormed d.children hlinearises
    (Token.Separated.append_iff.mpr ⟨hfront, separated_endTags missing, ?_⟩)
  rintro t - u hu ⟨-, hkind⟩
  cases missing with
  | zero => contradiction
  | succ missing =>
      obtain rfl : _ = u := Option.some.inj hu
      contradiction

end Document

end TagMarkup
