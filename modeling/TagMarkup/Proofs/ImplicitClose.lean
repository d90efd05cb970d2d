import Mathlib
import TagMarkup.Proofs.Concatenation
import TagMarkup.Proofs.Rendering

namespace TagMarkup

/-- A number of tags that end loops. -/
def renderEnds (k : Nat) : Text :=
  (List.replicate k renderEnd).flatten

@[simp] theorem renderEnds_zero : renderEnds 0 = [] := rfl

@[simp] theorem renderEnds_succ (k : Nat) : renderEnds (k + 1) = renderEnd ++ renderEnds k := by
  rw [renderEnds, List.replicate_succ, List.flatten_cons]
  rfl

theorem renderEnds_add (j k : Nat) : renderEnds (j + k) = renderEnds j ++ renderEnds k := by
  rw [renderEnds, List.replicate_add, List.flatten_append]
  rfl

namespace Assembly

variable {a : Assembly} {l : OpenLoop} {loops : List OpenLoop}

/-- Only open loops are treated otherwise where they may stay open. -/
theorem Fails.withOptions {options : ParseOptions} {item : Except LexError Token}
    {e : ParseError} (h : Fails options a item e)
    (hclosed : ∀ name opened, e ≠ .unterminatedLoop name opened) (options' : ParseOptions) :
    Fails options' a item e := by
  cases h with
  | lex e => exact .lex e
  | rejects h =>
      refine .rejects ?_
      cases h with
      | unterminatedLoop => exact (hclosed _ _ rfl).elim
      | unexpected hplace hend hmark htext => exact .unexpected hplace hend hmark htext
      | emptyTag hplace hkind => exact .emptyTag hplace hkind
      | unknownTag hplace hkind hname => exact .unknownTag hplace hkind hname
      | invalidElement hplace hkind helement => exact .invalidElement hplace hkind helement
      | missingLoopName hplace hname => exact .missingLoopName hplace hname
      | tooFewBounds hplace hkind hlength => exact .tooFewBounds hplace hkind hlength
      | unclosedLoopTag hplace hkind hlength => exact .unclosedLoopTag hplace hkind hlength
      | invalidBound hplace hkind hlength hbound => exact .invalidBound hplace hkind hlength hbound
      | unmatchedEnd hplace hkind hloops => exact .unmatchedEnd hplace hkind hloops
      | unclosedEndTag hplace hkind => exact .unclosedEndTag hplace hkind

theorem leave_loops_length : (a.leave l loops).loops.length = loops.length := by
  cases loops <;> rfl

theorem closeAll_leave (hloops : a.loops = l :: loops) :
    closeAll (a.leave l loops).root [] (a.leave l loops).loops = closeAll a.root [] a.loops := by
  rw [hloops]
  cases loops <;> rfl

end Assembly

namespace Document

open Assembly

theorem Reaches.leave {source : Text} {a : Assembly} {l : OpenLoop} {loops : List OpenLoop}
    (h : Reaches source a) (hloops : a.loops = l :: loops) :
    Reaches (source ++ renderEnd) (a.leave l loops) := by
  obtain ⟨front, last, events, hitems, hlast, hsteps, hplace⟩ := h
  obtain ⟨tag, offset, htag, hend⟩ := yields_end [] (0 + source.length)
  rw [List.append_nil, itemsFrom_nil] at hend
  obtain ⟨later, hleave⟩ := steps_leave hplace hloops htag
  refine ⟨front ++ tag, ⟨.endOfInput, none, offset⟩, _, ?_, rfl, hsteps.append hleave,
    push_place _ _⟩
  have hopens : ['{', '$'] <+: renderEnd := ⟨_, rfl⟩
  rw [itemsFrom_append_of_opensTag hitems hopens, hend, List.map_append, List.append_assoc]

/-- Appended tags close the open loops one by one, to the document that has them all closed. -/
theorem Reaches.ends {source : Text} {a : Assembly} (h : Reaches source a) {j : Nat}
    (hj : j ≤ a.loops.length) :
    ∃ b, Reaches (source ++ renderEnds j) b ∧ b.loops.length + j = a.loops.length ∧
      closeAll b.root [] b.loops = closeAll a.root [] a.loops := by
  -- The first tag closes the innermost loop, and the others follow a source that is longer by it.
  induction j generalizing source a with
  | zero =>
      rw [renderEnds_zero, List.append_nil]
      exact ⟨a, h, rfl, rfl⟩
  | succ j ih =>
      cases hloops : a.loops with
      | nil => simp [hloops] at hj
      | cons l loops =>
          have hlength : (a.leave l loops).loops.length + 1 = a.loops.length := by
            rw [leave_loops_length, hloops, List.length_cons]
          obtain ⟨b, hb, hcount, hclose⟩ := ih (h.leave hloops) (by omega)
          rw [List.append_assoc, ← renderEnds_succ] at hb
          refine ⟨b, hb, ?_, ?_⟩
          · rw [← hloops]
            omega
          · rw [hclose, closeAll_leave hloops, hloops]

theorem Reaches.parse_of_fewer {source : Text} {a : Assembly} (h : Reaches source a) {j : Nat}
    (hj : j < a.loops.length) :
    ∃ name opened, parse {} (source ++ renderEnds j) = .error (.unterminatedLoop name opened) := by
  obtain ⟨b, hb, hcount, -⟩ := h.ends hj.le
  obtain ⟨l, loops, hloops⟩ : ∃ l loops, b.loops = l :: loops :=
    List.exists_cons_of_length_pos (by omega)
  exact ⟨_, _, parse_eq_unterminatedLoop_iff.mpr ⟨b, l, loops, hb, hloops, rfl, rfl⟩⟩

theorem Reaches.parse_of_enough {source : Text} {a : Assembly} (h : Reaches source a) :
    parse {} (source ++ renderEnds a.loops.length) = .ok ⟨closeAll a.root [] a.loops⟩ := by
  obtain ⟨b, hb, hcount, hclose⟩ := h.ends (Nat.le_refl _)
  have hclosed : b.loops = [] := List.eq_nil_of_length_eq_zero (by omega)
  exact parse_eq_ok_iff_reaches.mpr ⟨b, hb, .inr hclosed, by rw [hclose]⟩

theorem parse_renderEnds (m : Nat) :
    parse {} (renderEnds (m + 1)) = .error (.unmatchedEnd 0) := by
  let mark : Token := ⟨.tagOpen, none, 0⟩
  let tag : Token := ⟨.name, some (.text ['E', 'N', 'D']), 0 + 2⟩
  have htag : tag.IsTagName ['E', 'N', 'D'] := ⟨_, .intro _ _, by decide⟩
  have hsteps : Steps empty [mark, tag] _ (empty.goTo (.endClose 0)) :=
    .cons (.mark rfl rfl) (.one (.tag .endLoop rfl htag))
  have hitems := itemsFrom_renderEnd 0 (renderEnds m)
  rw [← renderEnds_succ] at hitems
  exact parse_eq_error_iff.mpr ⟨[mark, tag], _, _, _, _, hitems, hsteps,
    .rejects (.unmatchedEnd rfl rfl rfl)⟩

theorem Reaches.parse_of_more {source : Text} {a : Assembly} (h : Reaches source a) {j : Nat}
    (hj : a.loops.length < j) :
    parse {} (source ++ renderEnds j) =
      .error (.unmatchedEnd (source ++ renderEnds a.loops.length).length) := by
  obtain ⟨m, rfl⟩ := Nat.exists_eq_add_of_lt hj
  have hseam : ¬SplitsMark (source ++ renderEnds a.loops.length) (renderEnds (m + 1)) := by
    simp [SplitsMark, renderEnd]
  have happend := parse_append_error h.parse_of_enough (parse_renderEnds m) hseam
  rwa [List.append_assoc, ← renderEnds_add, ← Nat.add_assoc, ParseError.shift, Nat.zero_add]
    at happend

/-- Where loops may stay open, a source is parsed as it is otherwise, but for loops that are open at
its end. Such a source is parsed as if it had, for each open loop, one tag more that ends it. With
fewer of these tags a loop stays open, and with more of them one ends no loop. -/
theorem parse_allowUnclosed (source : Text) :
    (∀ d, parse {} source = .ok d → parse ⟨true⟩ source = .ok d) ∧
    (∀ e, parse {} source = .error e → (∀ name opened, e ≠ .unterminatedLoop name opened) →
      parse ⟨true⟩ source = .error e) ∧
    ∀ name opened, parse {} source = .error (.unterminatedLoop name opened) →
      ∃ d k, parse ⟨true⟩ source = .ok d ∧ 1 ≤ k ∧
        (∀ j d', parse {} (source ++ renderEnds j) = .ok d' ↔ j = k ∧ d' = d) ∧
        (∀ j < k, ∃ name opened,
          parse {} (source ++ renderEnds j) = .error (.unterminatedLoop name opened)) ∧
        ∀ j > k, parse {} (source ++ renderEnds j) =
          .error (.unmatchedEnd (source ++ renderEnds k).length) := by
  refine ⟨?_, ?_, ?_⟩
  · intro d h
    obtain ⟨a, ha, -, hd⟩ := parse_eq_ok_iff_reaches.mp h
    exact parse_eq_ok_iff_reaches.mpr ⟨a, ha, .inl rfl, hd⟩
  · intro e h hclosed
    obtain ⟨front, item, rest, a, events, hitems, hsteps, hfails⟩ := parse_eq_error_iff.mp h
    exact parse_eq_error_iff.mpr ⟨front, item, rest, a, events, hitems, hsteps,
      hfails.withOptions hclosed _⟩
  · intro name opened h
    obtain ⟨a, l, loops, ha, hloops, -, -⟩ := parse_eq_unterminatedLoop_iff.mp h
    have hlenient : parse ⟨true⟩ source = .ok ⟨closeAll a.root [] a.loops⟩ :=
      parse_eq_ok_iff_reaches.mpr ⟨a, ha, .inl rfl, rfl⟩
    have hopen : 1 ≤ a.loops.length := by simp [hloops]
    refine ⟨_, a.loops.length, hlenient, hopen, ?_, fun j => ha.parse_of_fewer,
      fun j => ha.parse_of_more⟩
    intro j d'
    constructor
    · intro hj
      obtain hlt | rfl | hgt := lt_trichotomy j a.loops.length
      · obtain ⟨_, _, herror⟩ := ha.parse_of_fewer hlt
        rw [herror] at hj
        contradiction
      · rw [ha.parse_of_enough] at hj
        exact ⟨rfl, (Except.ok.inj hj).symm⟩
      · rw [ha.parse_of_more hgt] at hj
        contradiction
    · rintro ⟨rfl, rfl⟩
      exact ha.parse_of_enough

theorem parse_allowUnclosed_nested :
    parse ⟨true⟩ ['a'] = .ok ⟨[.text ['a']]⟩ ∧
    parse ⟨true⟩ renderEnd = .error (.unmatchedEnd 0) ∧
    ∃ d k,
      parse ⟨true⟩ ['{', '$', 'F', 'O', 'R', ' ', 'i', ' ', '1', ' ', '2', '$', '}',
        '{', '$', 'F', 'O', 'R', ' ', 'j', ' ', '3', ' ', '4', '$', '}', '{'] = .ok d ∧
      1 ≤ k ∧
      parse {} (['{', '$', 'F', 'O', 'R', ' ', 'i', ' ', '1', ' ', '2', '$', '}',
        '{', '$', 'F', 'O', 'R', ' ', 'j', ' ', '3', ' ', '4', '$', '}', '{'] ++ renderEnds k) =
        .ok d := by
  have htext : parse {} ['a'] = .ok ⟨[.text ['a']]⟩ := by cbv
  have hend : parse {} renderEnd = .error (.unmatchedEnd 0) := by cbv
  have hopen : parse {} ['{', '$', 'F', 'O', 'R', ' ', 'i', ' ', '1', ' ', '2', '$', '}',
      '{', '$', 'F', 'O', 'R', ' ', 'j', ' ', '3', ' ', '4', '$', '}', '{'] =
      .error (.unterminatedLoop ['j'] 13) := by cbv
  obtain ⟨d, k, hlenient, hpositive, hends, -⟩ := (parse_allowUnclosed _).2.2 _ _ hopen
  exact ⟨(parse_allowUnclosed _).1 _ htext, (parse_allowUnclosed _).2.1 _ hend (by simp),
    d, k, hlenient, hpositive, (hends k d).mpr ⟨rfl, rfl⟩⟩

end Document

end TagMarkup
