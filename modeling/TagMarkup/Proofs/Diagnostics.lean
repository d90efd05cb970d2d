import Mathlib
import TagMarkup.Diagnostic
import TagMarkup.Proofs.Number

namespace TagMarkup

/-! Lines of a text are the segments between its line feeds. -/

theorem Text.exists_firstLine (t : Text) :
    ∃ line after, t = line ++ after ∧ '\n' ∉ line ∧ (after = [] ∨ ['\n'] <+: after) := by
  induction t with
  | nil => exact ⟨[], [], rfl, List.not_mem_nil, .inl rfl⟩
  | cons c t ih =>
      by_cases hc : c = '\n'
      · exact ⟨[], c :: t, rfl, List.not_mem_nil, .inr ⟨t, congrArg (· :: t) hc.symm⟩⟩
      · obtain ⟨line, after, rfl, hline, hafter⟩ := ih
        exact ⟨c :: line, after, rfl, List.not_mem_cons_of_ne_of_not_mem (Ne.symm hc) hline, hafter⟩

theorem Text.length_splitOn (t : Text) : (t.splitOn '\n').length = t.count '\n' + 1 := by
  induction t with
  | nil => rfl
  | cons c t ih =>
      rw [List.splitOn_cons_eq_if_modifyHead, List.count_cons]
      split <;> simp [ih]

theorem Text.head?_splitOn {line after : Text} (hline : '\n' ∉ line)
    (hafter : after = [] ∨ ['\n'] <+: after) : ((line ++ after).splitOn '\n').head? = some line := by
  obtain rfl | ⟨rest, rfl⟩ := hafter
  · rw [List.append_nil, List.splitOn_eq_singleton hline]
    rfl
  · rw [List.singleton_append, List.splitOn_append_cons_self_of_not_mem hline]
    rfl

theorem Text.takeWhile_line {line after : Text} (hline : '\n' ∉ line)
    (hafter : after = [] ∨ ['\n'] <+: after) :
    (line ++ after).takeWhile (· != '\n') = line ∧
      (line ++ after).dropWhile (· != '\n') = after := by
  have hplain : ∀ c ∈ line, (c != '\n') = true := by
    intro c hc
    rw [bne_iff_ne]
    rintro rfl
    exact hline hc
  have hstop : after.head?.any (· != '\n') = false := by
    obtain rfl | ⟨rest, rfl⟩ := hafter <;> rfl
  exact takeWhile_append_of_stop hplain hstop

theorem lineAt_nil (n : Nat) : lineAt n [] = [] := by
  induction n with
  | zero => rfl
  | succ n ih => exact ih

theorem lineAt_eq (n : Nat) (source : Text) :
    lineAt n source = ((source.splitOn '\n')[n]?).getD [] := by
  induction n generalizing source with
  | zero =>
      obtain ⟨line, after, rfl, hline, hafter⟩ := Text.exists_firstLine source
      rw [lineAt, (Text.takeWhile_line hline hafter).1, ← List.head?_eq_getElem?,
        Text.head?_splitOn hline hafter, Option.getD_some]
  | succ n ih =>
      obtain ⟨line, after, rfl, hline, hafter⟩ := Text.exists_firstLine source
      rw [lineAt, (Text.takeWhile_line hline hafter).2]
      obtain rfl | ⟨rest, rfl⟩ := hafter
      · rw [List.append_nil, List.splitOn_eq_singleton hline]
        exact lineAt_nil n
      · rw [List.singleton_append, List.splitOn_append_cons_self_of_not_mem hline]
        exact ih rest

/-- The line of a source that an offset is in, with the text before it and the text after it. An
offset past the end is in the last line. -/
structure LineAround (source : Text) (offset : Nat) (before line after : Text) : Prop where
  source_eq : source = before ++ (line ++ after)
  starts : before = [] ∨ ['\n'] <:+ before
  ends : after = [] ∨ ['\n'] <+: after
  not_mem : '\n' ∉ line
  le_offset : before.length ≤ min offset source.length
  offset_le : min offset source.length ≤ before.length + line.length

theorem exists_lineAround (source : Text) (offset : Nat) :
    ∃ before line after, LineAround source offset before line after := by
  obtain ⟨back, front, hback, hnot, hfront⟩ := Text.exists_firstLine (source.take offset).reverse
  obtain ⟨rest, after, hrest, hnot', hafter⟩ := Text.exists_firstLine (source.drop offset)
  have htake : source.take offset = front.reverse ++ back.reverse := by
    rw [← List.reverse_append, ← hback, List.reverse_reverse]
  have hlength : min offset source.length = front.length + back.length := by
    simpa using congrArg List.length htake
  have hstarts : front.reverse = [] ∨ ['\n'] <:+ front.reverse :=
    hfront.imp (fun h => by simp [h]) List.reverse_suffix.mpr
  refine ⟨front.reverse, back.reverse ++ rest, after, ?_, hstarts, hafter, by simp [hnot, hnot'],
    by simp [hlength], by simp [hlength]⟩
  rw [← source.take_append_drop offset, htake, hrest]
  simp

namespace Position

theorem locate_eq (source : Text) (offset : Nat) :
    locate source offset = ⟨1 + (source.take offset).count '\n',
      1 + ((source.take offset).reverse.takeWhile (· != '\n')).length⟩ := by
  rw [locate]
  generalize source.take offset = t
  induction t using List.reverseRecOn with
  | nil => rfl
  | append_singleton t c ih =>
      rw [List.foldl_append, ih, List.foldl_cons, List.foldl_nil, advance]
      by_cases hc : c = '\n'
      · simp [hc, Nat.add_assoc]
      · simp [hc, Nat.add_comm]

/-- The order of positions: by lines, and within a line by columns. -/
def key (p : Position) : ℕ ×ₗ ℕ :=
  toLex (p.line, p.column)

theorem key_lt_advance (p : Position) (c : Char) : p.key < (p.advance c).key := by
  rw [key, key, Prod.Lex.toLex_lt_toLex, advance]
  split
  · exact .inl (Nat.lt_succ_self _)
  · exact .inr ⟨rfl, Nat.lt_succ_self _⟩

theorem locate_succ {source : Text} {offset : Nat} {c : Char} (h : source[offset]? = some c) :
    locate source (offset + 1) = (locate source offset).advance c := by
  rw [locate, List.take_add_one, h, Option.toList_some, List.foldl_append]
  rfl

theorem strictMonoOn_locate (source : Text) :
    StrictMonoOn (fun offset => (locate source offset).key) (Set.Iic source.length) := by
  refine strictMonoOn_of_lt_add_one Set.ordConnected_Iic fun offset _ _ hnext => ?_
  have hlt : offset < source.length := hnext
  simp only [locate_succ (List.getElem?_eq_getElem hlt)]
  exact key_lt_advance _ _

theorem locate_of_length_le {source : Text} {offset : Nat} (h : source.length ≤ offset) :
    locate source offset = locate source source.length := by
  rw [locate, locate, List.take_of_length_le h, List.take_length]

end Position

namespace LineAround

variable {source : Text} {offset : Nat} {before line after : Text}

theorem take_eq (h : LineAround source offset before line after) :
    source.take offset = before ++ line.take (min offset source.length - before.length) := by
  have hmin : source.take offset = source.take (min offset source.length) := by
    rw [List.take_eq_take_iff, Nat.min_assoc, Nat.min_self]
  have hcolumn : min offset source.length - before.length ≤ line.length :=
    Nat.sub_le_iff_le_add'.mpr h.offset_le
  obtain ⟨k, hk⟩ := Nat.exists_eq_add_of_le h.le_offset
  rw [hk, Nat.add_sub_cancel_left] at hcolumn
  rw [hmin, hk, Nat.add_sub_cancel_left, h.source_eq, List.take_length_add_append,
    List.take_append_of_le_length hcolumn]

theorem locate_eq (h : LineAround source offset before line after) :
    Position.locate source offset =
      ⟨1 + before.count '\n', 1 + (min offset source.length - before.length)⟩ := by
  let run := line.take (min offset source.length - before.length)
  have hrun : '\n' ∉ run := fun hmem => h.not_mem (List.mem_of_mem_take hmem)
  have hlength : run.length = min offset source.length - before.length :=
    List.length_take_of_le (Nat.sub_le_iff_le_add'.mpr h.offset_le)
  have hstarts : before.reverse = [] ∨ ['\n'] <+: before.reverse :=
    h.starts.imp (fun h => by simp [h]) List.reverse_prefix.mpr
  have hback := Text.takeWhile_line (List.mem_reverse.not.mpr hrun) hstarts
  rw [Position.locate_eq, h.take_eq, List.count_append, List.count_eq_zero.mpr hrun,
    List.reverse_append, hback.1, List.length_reverse, hlength]
  rfl

theorem column_eq (h : LineAround source offset before line after) :
    (Position.locate source offset).column - 1 = min offset source.length - before.length := by
  rw [h.locate_eq, Nat.add_sub_cancel_left]

theorem getElem?_line (h : LineAround source offset before line after) :
    (source.splitOn '\n')[(Position.locate source offset).line - 1]? = some line := by
  have hfirst := Text.head?_splitOn h.not_mem h.ends
  rw [h.locate_eq, Nat.add_sub_cancel_left, h.source_eq]
  obtain rfl | ⟨front, rfl⟩ := h.starts
  · rw [List.nil_append, List.count_nil, ← List.head?_eq_getElem?, hfirst]
  · have hcount : (front ++ ['\n']).count '\n' = (front.splitOn '\n').length := by
      simp [Text.length_splitOn]
    rw [List.append_assoc, List.singleton_append, List.splitOn_append_cons_self, hcount,
      List.getElem?_append_right le_rfl, Nat.sub_self, ← List.head?_eq_getElem?, hfirst]

end LineAround

/-! What a diagnostic shows. -/

/-- What stands in front of the line of the source, over the indent of the caret. -/
def Position.margin (p : Position) : Text :=
  Text.ofNat p.line ++ " | "

/-- Two lines on an offset of a source: the line that the offset is in, and a caret below it, under
the character at the offset if that character is shown. -/
structure Pointing (source : Text) (offset : Nat) (context pointer : Text) : Prop where
  shows : ∃ before line after, LineAround source offset before line after ∧
    (source.splitOn '\n')[(Position.locate source offset).line - 1]? = some line ∧
    context = (Position.locate source offset).margin ++ line.rdropWhile (· == '\r') ∧
    pointer.idxOf '^' = (Position.locate source offset).margin.length +
      (min offset source.length - before.length)
  marks : pointer.filter (· != ' ') = ['|', '^']
  last : pointer.getLast? = some '^'
  caret : pointer.idxOf '^' = (Position.locate source offset).margin.length +
    ((Position.locate source offset).column - 1)
  above : pointer.idxOf '^' < context.length → context[pointer.idxOf '^']? = source[offset]?

/-- A report whose last two lines point at an offset of a source. -/
def PointsAt (report source : Text) (offset : Nat) : Prop :=
  ∃ front context pointer, report.splitOn '\n' = front ++ [context, pointer] ∧
    Pointing source offset context pointer

namespace Position

def indent (p : Position) : Text :=
  List.replicate (Text.ofNat p.line).length ' ' ++ " | " ++ List.replicate (p.column - 1) ' '

theorem length_indent (p : Position) : p.indent.length = p.margin.length + (p.column - 1) := by
  simp only [indent, margin, List.length_append, List.length_replicate]

theorem caret_not_mem_indent (p : Position) : '^' ∉ p.indent := by
  simp [indent]

theorem newline_not_mem_indent (p : Position) : '\n' ∉ p.indent := by
  simp [indent]

theorem newline_not_mem_margin (p : Position) : '\n' ∉ p.margin := by
  have hnumber : '\n' ∉ Text.ofNat p.line := Text.not_mem_ofNat (by decide) p.line
  simp [margin, hnumber]

end Position

theorem Text.splitOn_joinLines (a b c : Text) {context pointer : Text} (hcontext : '\n' ∉ context)
    (hpointer : '\n' ∉ pointer) :
    (joinLines [a, b, c, context, pointer]).splitOn '\n' =
      (joinLines [a, b, c]).splitOn '\n' ++ [context, pointer] := by
  have hjoin : joinLines [a, b, c, context, pointer] =
      joinLines [a, b, c] ++ '\n' :: (context ++ '\n' :: pointer) := by
    simp [joinLines, List.intercalate]
  rw [hjoin, List.splitOn_append_cons_self, List.splitOn_append_cons_self_of_not_mem hcontext,
    List.splitOn_eq_singleton hpointer]

theorem LineAround.getElem?_shown {source : Text} {offset : Nat} {before line after shown : Text}
    (h : LineAround source offset before line after) (hshown : shown <+: line)
    (hlt : min offset source.length - before.length < shown.length) :
    shown[min offset source.length - before.length]? = source[offset]? := by
  obtain ⟨k, hk⟩ := Nat.exists_eq_add_of_le h.le_offset
  obtain ⟨hidden, rfl⟩ := hshown
  rw [hk, Nat.add_sub_cancel_left] at hlt ⊢
  have hoffset : offset = before.length + k := by
    have hlength := congrArg List.length h.source_eq
    simp only [List.length_append] at hlength
    omega
  rw [hoffset, h.source_eq, List.getElem?_append_right (Nat.le_add_right _ _),
    Nat.add_sub_cancel_left, List.append_assoc, List.getElem?_append_left hlt]

theorem LineAround.pointing {source : Text} {offset : Nat} {before line after : Text}
    (h : LineAround source offset before line after) :
    Pointing source offset
      ((Position.locate source offset).margin ++ line.rdropWhile (· == '\r'))
      ((Position.locate source offset).indent ++ ['^']) := by
  have hcaret : ((Position.locate source offset).indent ++ ['^']).idxOf '^' =
      (Position.locate source offset).margin.length +
        ((Position.locate source offset).column - 1) := by
    rw [List.idxOf_append_of_notMem (Position.caret_not_mem_indent _), Position.length_indent]
    rfl
  have hindex := hcaret
  rw [h.column_eq] at hindex
  refine ⟨⟨before, line, after, h, h.getElem?_line, rfl, hindex⟩, ?_, List.getLast?_concat,
    hcaret, ?_⟩
  · simp [Position.indent]
  · intro hlt
    rw [hindex, List.length_append, Nat.add_lt_add_iff_left] at hlt
    rw [hindex, List.getElem?_append_right (Nat.le_add_right _ _), Nat.add_sub_cancel_left]
    exact h.getElem?_shown (line.rdropWhile_prefix _) hlt

theorem diagnose_pointsAt (message source : Text) (offset : Nat) :
    PointsAt (diagnose message source (Position.locate source offset)) source offset := by
  obtain ⟨before, line, after, h⟩ := exists_lineAround source offset
  have hlineAt : lineAt ((Position.locate source offset).line - 1) source = line := by
    rw [lineAt_eq, h.getElem?_line, Option.getD_some]
  have hcontext :
      '\n' ∉ (Position.locate source offset).margin ++ line.rdropWhile (· == '\r') := by
    rw [List.mem_append, not_or]
    exact ⟨Position.newline_not_mem_margin _,
      fun hmem => h.not_mem ((line.rdropWhile_prefix _).mem hmem)⟩
  have hpointer : '\n' ∉ (Position.locate source offset).indent ++ ['^'] := by
    simp [Position.newline_not_mem_indent]
  have hlines := Text.splitOn_joinLines ("error: " ++ message)
    (List.replicate (Text.ofNat (Position.locate source offset).line).length ' ' ++ " --> " ++
      (Position.locate source offset).render)
    (List.replicate (Text.ofNat (Position.locate source offset).line).length ' ' ++ " |")
    hcontext hpointer
  rw [← hlineAt] at hlines
  exact ⟨_, _, _, hlines, hlineAt ▸ h.pointing⟩

/-- Positions grow up to the end of the source, where they stay, and count line feeds and the
characters after the last of them. Both kinds of error are shown with the line that they are in, and
a caret below the character. -/
theorem locate_strictMonoOn_and_pretty_pointsAt (source : Text) :
    StrictMonoOn (fun offset => (Position.locate source offset).key) (Set.Iic source.length) ∧
    (∀ offset ≥ source.length,
      Position.locate source offset = Position.locate source source.length) ∧
    (∀ offset, (Position.locate source offset).line = 1 + (source.take offset).count '\n' ∧
      (Position.locate source offset).column =
        1 + ((source.take offset).reverse.takeWhile (· != '\n')).length) ∧
    (∀ e : LexError, PointsAt (e.pretty source) source e.offset) ∧
    ∀ e : ParseError, PointsAt (e.pretty source) source e.offset := by
  refine ⟨Position.strictMonoOn_locate source, fun _ => Position.locate_of_length_le, ?_,
    fun e => diagnose_pointsAt e.message source e.offset,
    fun e => diagnose_pointsAt e.message source e.offset⟩
  intro offset
  rw [Position.locate_eq]
  exact ⟨rfl, rfl⟩

/-- An offset past the end of a source whose last line ends in a carriage return. -/
theorem locate_strictMonoOn_and_pretty_pointsAt_past_end :
    Position.locate ['a', '\n', 'b', '\r'] 7 = Position.locate ['a', '\n', 'b', '\r'] 4 ∧
    ParseError.pretty (.emptyTag 7) ['a', '\n', 'b', '\r'] =
      "error: empty tag at offset 7.\n  --> line 2, column 3\n  |\n2 | b\n  |   ^" ∧
    PointsAt (ParseError.pretty (.emptyTag 7) ['a', '\n', 'b', '\r']) ['a', '\n', 'b', '\r'] 7 := by
  have h := locate_strictMonoOn_and_pretty_pointsAt ['a', '\n', 'b', '\r']
  exact ⟨h.2.1 7 (by decide), rfl, h.2.2.2.2 (.emptyTag 7)⟩

end TagMarkup
