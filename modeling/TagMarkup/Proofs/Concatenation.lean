import Mathlib
import TagMarkup.Proofs.Relocation
import TagMarkup.Proofs.Seam
import TagMarkup.Proofs.WellFormed

namespace TagMarkup

/-- The nodes of two lists in order. Where a text of the one meets a text of the other, they are one
text. -/
def Node.joinAll (front back : List Node) : List Node :=
  match front.getLast?, back with
  | some (.text content), .text more :: rest => front.dropLast ++ .text (content ++ more) :: rest
  | _, _ => front ++ back

def Document.join (d e : Document) : Document :=
  ⟨Node.joinAll d.children e.children⟩

theorem Node.joinAll_texts (front rest : List Node) (content more : Text) :
    joinAll (front ++ [.text content]) (.text more :: rest) =
      front ++ .text (content ++ more) :: rest := by
  simp [joinAll]

theorem Node.not_allWellFormed_texts (front rest : List Node) (content more : Text) :
    ¬AllWellFormed (front ++ .text content :: .text more :: rest) := by
  induction front with
  | nil => exact fun h => h.2.1 ⟨rfl, rfl⟩
  | cons node front ih => exact fun h => ih h.2.2

theorem Node.joinAll_of_allWellFormed {front back : List Node}
    (h : AllWellFormed (front ++ back)) : joinAll front back = front ++ back := by
  unfold joinAll
  split
  · rename_i content more rest hlast
    obtain ⟨before, rfl⟩ := List.getLast?_eq_some_iff.mp hlast
    rw [List.append_assoc] at h
    exact (not_allWellFormed_texts before rest content more h).elim
  · rfl

namespace Assembly

variable {a b : Assembly} {t : Token} {events later : List Event}

theorem Takes.eq_push {content : Text} (h : Takes a t events b) (hkind : t.kind = .text)
    (hvalue : t.value = some (.text content)) :
    a.place = .betweenTags ∧ b = a.push (.text content) := by
  obtain ⟨kind, value, offset⟩ := t
  dsimp only at hkind hvalue
  subst hkind hvalue
  cases h with
  | text _ _ hplace => exact ⟨hplace, rfl⟩
  | tag _ _ htag =>
      obtain ⟨_, ⟨⟩, -⟩ := htag
  | element _ helement => cases helement
  | subject _ hname => cases hname
  | bound _ _ hbound => cases hbound
  | _ => contradiction

/-- After a source with a document, another source is taken as it is from the beginning. -/
theorem Steps.resume {n : Nat} {front tokens : List Token} (hfront : Steps empty front events a)
    (hplace : a.place = .betweenTags) (hloops : a.loops = [])
    (htokens : Steps empty tokens later b) :
    ∃ events' final, Steps empty (front ++ tokens.map (Token.shift n)) events' final ∧
      Relocated n [] a.root b final := by
  have hstart : Relocated n [] a.root empty a := ⟨⟨[], rfl, rfl⟩, hloops, hplace⟩
  obtain ⟨later', final, hrest, hfinal⟩ := hstart.steps htokens
  exact ⟨_, final, hfront.append hrest, hfinal⟩

theorem Steps.resume_text {n : Nat} {before tokens : List Token} {content more : Text}
    {offset offset' : Nat}
    (hfront : Steps empty (before ++ [⟨.text, some (.text content), offset⟩]) events a)
    (hloops : a.loops = [])
    (htokens : Steps empty (⟨.text, some (.text more), offset'⟩ :: tokens) later b) :
    ∃ root events' final, a.root = .text content :: root ∧
      Steps empty (before ++ ⟨.text, some (.text (content ++ more)), offset⟩ ::
        tokens.map (Token.shift n)) events' final ∧
      Relocated n [.text more] (.text (content ++ more) :: root) b final := by
  obtain ⟨middle, _, _, hbefore, hlast⟩ := hfront.exists_of_append
  cases hlast with
  | cons hstep hnil =>
      cases hnil
      obtain ⟨hplace, rfl⟩ := hstep.eq_push rfl rfl
      obtain ⟨root, loops, place⟩ := middle
      obtain rfl : place = .betweenTags := hplace
      obtain rfl : loops = [] := by
        cases loops with
        | nil => rfl
        | cons => contradiction
      cases htokens with
      | cons hstep' hrest =>
          obtain ⟨-, rfl⟩ := hstep'.eq_push rfl rfl
          have hstart : Relocated n [.text more] (.text (content ++ more) :: root)
              (empty.push (.text more)) ⟨.text (content ++ more) :: root, [], .betweenTags⟩ :=
            ⟨⟨[], rfl, rfl⟩, rfl, rfl⟩
          obtain ⟨_, final, hsteps, hfinal⟩ := hstart.steps hrest
          exact ⟨root, _, final, rfl, hbefore.append (.cons (.text _ _ rfl) hsteps), hfinal⟩

/-- How an assembly after two sources stands to the one after the second source alone. -/
inductive Resumes (n : Nat) (a b final : Assembly) : Prop
  | apart (h : Relocated n [] a.root b final)
  | text {root : List Node} {content more : Text} (hroot : a.root = .text content :: root)
      (h : Relocated n [.text more] (.text (content ++ more) :: root) b final)

theorem exists_steps_of_joins {n : Nat} {front tokens : List Token}
    {item : Except LexError Token} {items rest joined : List (Except LexError Token)}
    (hjoin : Joins front (items.map (shiftItem n)) joined)
    (hitems : items = tokens.map .ok ++ item :: rest) (hfront : Steps empty front events a)
    (hplace : a.place = .betweenTags) (hloops : a.loops = [])
    (htokens : Steps empty tokens later b)
    (hstuck : ∀ t events next, item = .ok t → ¬Takes b t events next) :
    ∃ tokens' rest' events' final, joined = tokens'.map .ok ++ shiftItem n item :: rest' ∧
      Steps empty tokens' events' final ∧ ((∃ e, item = .error e) ∨ Resumes n a b final) := by
  generalize hshift : items.map (shiftItem n) = shifted at hjoin
  rw [hitems] at hshift
  cases hjoin with
  | apart =>
      subst hshift
      obtain ⟨_, final, hsteps, hfinal⟩ := hfront.resume (n := n) hplace hloops htokens
      exact ⟨_, rest.map (shiftItem n), _, final, by simp, hsteps, .inr (.apart hfinal)⟩
  | @text before content more offset offset' later hfront' =>
      subst hfront'
      cases tokens with
      | nil =>
          cases htokens
          obtain ⟨hhead, -⟩ := List.cons_eq_cons.mp hshift
          obtain ⟨⟨kind, value, _⟩, hitem, htoken⟩ := shiftItem_eq_ok hhead
          cases htoken
          exact (hstuck _ _ _ hitem (.text more _ rfl)).elim
      | cons t tokens =>
          obtain ⟨hhead, rfl⟩ := List.cons_eq_cons.mp hshift
          obtain ⟨⟨kind, value, _⟩, ⟨⟩, htoken⟩ := shiftItem_eq_ok hhead
          cases htoken
          obtain ⟨root, _, final, hroot, hsteps, hfinal⟩ :=
            hfront.resume_text (n := n) hloops htokens
          exact ⟨_, rest.map (shiftItem n), _, final, by simp, hsteps, .inr (.text hroot hfinal)⟩
  | @error before content offset e hfront' =>
      subst hfront'
      cases tokens with
      | nil =>
          obtain ⟨hitem, -⟩ := List.cons_eq_cons.mp hshift
          obtain ⟨middle, _, _, hbefore, -⟩ := hfront.exists_of_append
          exact ⟨before, [], _, middle, by rw [hitem], hbefore, .inl (shiftItem_eq_error hitem)⟩
      | cons t tokens => cases hshift

end Assembly

namespace Document

open Assembly

theorem exists_joins_of_parse {a b : Text} {da : Document} (ha : parse {} a = .ok da)
    (hseam : ¬SplitsMark a b) :
    ∃ front middle events, Steps empty front events middle ∧ middle.place = .betweenTags ∧
      middle.loops = [] ∧ da.children = middle.root.reverse ∧
      Joins front ((itemsFrom .outsideTag 0 b).map (shiftItem a.length))
        (itemsFrom .outsideTag 0 (a ++ b)) := by
  obtain ⟨middle, ⟨front, last, events, hitems, -, hfront, hplace⟩, hstrict, rfl⟩ :=
    parse_eq_ok_iff_reaches.mp ha
  have hloops : middle.loops = [] := hstrict.resolve_left Bool.false_ne_true
  have hjoin := joins_itemsFrom hitems hseam
  rw [itemsFrom_shift] at hjoin
  refine ⟨front, middle, events, hfront, hplace, hloops, ?_, hjoin⟩
  rw [hloops, closeAll]
  rfl

theorem parse_append_ok {a b : Text} {da db : Document} (ha : parse {} a = .ok da)
    (hb : parse {} b = .ok db) (hseam : ¬SplitsMark a b) :
    parse {} (a ++ b) = .ok (da.join db) := by
  obtain ⟨front, middle, _, hfront, hplace, hloops, hda, hjoin⟩ := exists_joins_of_parse ha hseam
  obtain ⟨front', last', final, _, _, htokens', hfront', hends'⟩ := parse_eq_ok_iff.mp hb
  rw [tokenize_eq, collect_eq_ok_iff, List.map_append, List.map_singleton] at htokens'
  obtain ⟨tokens, rest, _, resumed, hitems, hsteps, ⟨_, ⟨⟩⟩ | hresumes⟩ :=
    exists_steps_of_joins hjoin htokens' hfront hplace hloops hfront' (by
      rintro t _ next ⟨⟩
      exact hends'.not_takes next)
  have hlast : (last'.shift a.length).kind = .endOfInput := hends'.kind
  obtain rfl := eq_nil_of_itemsFrom hlast hitems
  have hparse {events : List Event} {d : Document}
      (h : Ends {} resumed (last'.shift a.length) events d) : parse {} (a ++ b) = .ok d := by
    refine parse_eq_ok_iff.mpr ⟨tokens, _, resumed, _, _, ?_, hsteps, h⟩
    rw [tokenize_eq, collect_eq_ok_iff, hitems, List.map_append, List.map_singleton]
    rfl
  cases hresumes with
  | apart hrelocated =>
      obtain ⟨_, nodes, hfinal, hdb⟩ := hrelocated.ends hends'
      have happend := hparse hfinal
      obtain rfl : db.children = nodes := hdb
      rw [← hda] at happend
      rw [happend, join, Node.joinAll_of_allWellFormed (wellFormed_of_parse happend).1]
  | @text root content more hroot hrelocated =>
      obtain ⟨_, nodes, hfinal, hdb⟩ := hrelocated.ends hends'
      have hda' : da.children = root.reverse ++ [.text content] := by
        rw [hda, hroot, List.reverse_cons]
      have hdb' : db.children = .text more :: nodes := hdb
      rw [hparse hfinal, join, hda', hdb', Node.joinAll_texts, List.reverse_cons,
        List.append_assoc, List.singleton_append]

theorem parse_append_error {a b : Text} {da : Document} {e : ParseError}
    (ha : parse {} a = .ok da) (hb : parse {} b = .error e) (hseam : ¬SplitsMark a b) :
    parse {} (a ++ b) = .error (e.shift a.length) := by
  obtain ⟨front, middle, _, hfront, hplace, hloops, -, hjoin⟩ := exists_joins_of_parse ha hseam
  obtain ⟨front', item, rest', final, _, hitems', hfront', hfails⟩ := parse_eq_error_iff.mp hb
  obtain ⟨tokens, rest, _, resumed, hitems, hsteps, hresumes⟩ :=
    exists_steps_of_joins hjoin hitems' hfront hplace hloops hfront' (by
      rintro t _ next rfl
      cases hfails with
      | rejects hreject => exact hreject.not_takes next)
  refine parse_eq_error_iff.mpr ⟨tokens, _, rest, resumed, _, hitems, hsteps, ?_⟩
  obtain ⟨lexical, rfl⟩ | hresumes := hresumes
  · cases hfails
    exact .lex (lexical.shift a.length)
  · cases hresumes with
    | apart hrelocated => exact hrelocated.fails hfails
    | text _ hrelocated => exact hrelocated.fails hfails

/-- After a source with a document, a second source is parsed as it is alone, unless the mark that
opens a tag comes about where they meet: to its nodes, or to its error with all offsets moved. -/
theorem parse_append {a b : Text} {da : Document} (ha : parse {} a = .ok da)
    (hseam : ¬SplitsMark a b) :
    (∀ db, parse {} b = .ok db → parse {} (a ++ b) = .ok (da.join db)) ∧
      ∀ e, parse {} b = .error e → parse {} (a ++ b) = .error (e.shift a.length) :=
  ⟨fun _ hb => parse_append_ok ha hb hseam, fun _ hb => parse_append_error ha hb hseam⟩

theorem parse_append_after_brace :
    parse {} ['b', '{'] = .ok ⟨[.text ['b', '{']]⟩ ∧
    ¬SplitsMark ['b', '{'] ['{', 'c', '{', '$', '=', '$', '}'] ∧
    parse {} (['b', '{'] ++ ['{', 'c', '{', '$', '=', '$', '}']) =
      .ok (join ⟨[.text ['b', '{']]⟩ ⟨[.text ['{', 'c'], .echo []]⟩) ∧
    ¬SplitsMark ['b', '{'] ['{', '\\', 'n'] ∧
    parse {} (['b', '{'] ++ ['{', '\\', 'n']) =
      .error ((ParseError.lex (.invalidEscape 'n' 1)).shift 2) := by
  have ha : parse {} ['b', '{'] = .ok ⟨[.text ['b', '{']]⟩ := by cbv
  have hb : parse {} ['{', 'c', '{', '$', '=', '$', '}'] = .ok ⟨[.text ['{', 'c'], .echo []]⟩ := by
    cbv
  have hb' : parse {} ['{', '\\', 'n'] = .error (.lex (.invalidEscape 'n' 1)) := by cbv
  have hseam : ¬SplitsMark ['b', '{'] ['{', 'c', '{', '$', '=', '$', '}'] := by
    simp [SplitsMark]
  have hseam' : ¬SplitsMark ['b', '{'] ['{', '\\', 'n'] := by simp [SplitsMark]
  exact ⟨ha, hseam, (parse_append ha hseam).1 _ hb, hseam', (parse_append ha hseam').2 _ hb'⟩

end Document

end TagMarkup
