import TagMarkup.Proofs.Spelling

namespace TagMarkup

open Unicode

theorem head?_dropWhile_any (p : Char → Bool) (source : Text) :
    (source.dropWhile p).head?.any p = false := by
  induction source with
  | nil => rfl
  | cons c rest ih =>
      cases hc : p c with
      | true => simpa [hc] using ih
      | false => simp [hc]

theorem exists_literalText_of_scanText {source : Text} (h : (scanText source).fault = none) :
    ∃ lexeme, source = lexeme ++ (scanText source).rest ∧
      (scanText source).width = lexeme.length ∧
      LiteralText (scanText source).rest lexeme (scanText source).text ∧
      ((scanText source).rest = [] ∨ ['{', '$'] <+: (scanText source).rest) := by
  fun_induction scanText source with
  | case1 => exact ⟨[], rfl, rfl, .nil, .inl rfl⟩
  | case2 => contradiction
  | case3 e tail hescape ih =>
      obtain ⟨lexeme, hsource, hwidth, hrun, hend⟩ := ih h
      have he : e = '\\' ∨ e = '{' := by simpa [isTextEscape] using hescape
      exact ⟨'\\' :: e :: lexeme, congrArg (fun s => '\\' :: e :: s) hsource,
        congrArg (· + 2) hwidth, .escape he hrun, hend⟩
  | case4 => contradiction
  | case5 c rest hc htag =>
      exact ⟨[], rfl, rfl, .nil, .inr (opensTag_iff_starts.mp htag)⟩
  | case6 c rest hc htag ih =>
      obtain ⟨lexeme, hsource, hwidth, hrun, hend⟩ := ih h
      rw [opensTag_iff_starts, hsource] at htag
      exact ⟨c :: lexeme, congrArg (c :: ·) hsource, congrArg (· + 1) hwidth,
        .plain hc htag hrun, hend⟩

theorem exists_literalString_of_scanLiteral {source : Text}
    (h : (scanLiteral source).fault = none) :
    ∃ lexeme, source = lexeme ++ '"' :: (scanLiteral source).rest ∧
      (scanLiteral source).width = lexeme.length + 1 ∧
      LiteralString lexeme (scanLiteral source).text := by
  fun_induction scanLiteral source with
  | case1 => contradiction
  | case2 rest => exact ⟨[], rfl, rfl, .nil⟩
  | case3 => contradiction
  | case4 e tail d hescape hquote ih =>
      obtain ⟨lexeme, hsource, hwidth, hrun⟩ := ih h
      exact ⟨'\\' :: e :: lexeme, congrArg (fun s => '\\' :: e :: s) hsource,
        congrArg (· + 2) hwidth, .escape (literalEscape?_eq_some_iff.mp hescape) hrun⟩
  | case5 => contradiction
  | case6 c rest hquote hescape ih =>
      obtain ⟨lexeme, hsource, hwidth, hrun⟩ := ih h
      exact ⟨c :: lexeme, congrArg (c :: ·) hsource, congrArg (· + 1) hwidth,
        .plain hquote hescape hrun⟩

namespace Lexeme

/-- If there is a token, it is one that the mode admits, and it is spelled at the beginning of the
source, before what is left. -/
def Spells (x : Lexeme) (m : Mode) (offset : Nat) (source : Text) : Prop :=
  ∀ t, x.outcome = .ok t → m.Admits t.kind ∧ t.offset = offset ∧
    ∃ lexeme, source = lexeme ++ x.rest ∧ x.width = lexeme.length ∧
      Spelling t.kind t.value lexeme x.rest

theorem spells_fault (e : LexError) (width : Nat) (rest : Text) (m : Mode) (offset : Nat)
    (source : Text) : (fault e width rest).Spells m offset source := by
  intro t htoken
  simp [fault] at htoken

theorem spells_token {m : Mode} {kind : TokenKind} {value : Option TokenValue} (offset : Nat)
    {width : Nat} {lexeme rest : Text} (hmode : m.Admits kind) (hwidth : width = lexeme.length)
    (h : Spelling kind value lexeme rest) :
    (token kind value offset width rest).Spells m offset (lexeme ++ rest) := by
  intro t htoken
  simp only [token, Except.ok.injEq] at htoken
  subst htoken
  exact ⟨hmode, rfl, lexeme, rfl, hwidth, h⟩

theorem outsideTag_spells (offset : Nat) (source : Text) :
    (outsideTag offset source).Spells .outsideTag offset source := by
  unfold outsideTag
  split
  · rename_i hopen
    obtain ⟨rest, rfl⟩ := opensTag_iff.mp hopen
    exact spells_token offset (by decide) rfl (.tagOpen rest)
  · rename_i hopen
    dsimp only
    split
    · exact spells_fault _ _ _ _ _ _
    · rename_i hfault
      obtain ⟨lexeme, hsource, hwidth, hrun, hend⟩ := exists_literalText_of_scanText hfault
      split
      · rename_i hempty
        have hlexeme : lexeme = [] := hrun.content_eq_nil_iff.mp (by simpa using hempty)
        rw [hlexeme, List.nil_append] at hsource
        obtain hrest | hrest := hend
        · rw [hrest] at hsource
          subst hsource
          exact spells_token offset (by decide) rfl .endOfInput
        · rw [← hsource, ← opensTag_iff_starts] at hrest
          contradiction
      · rename_i hempty
        have hne : lexeme ≠ [] := hrun.content_eq_nil_iff.not.mp (by simpa using hempty)
        have hspells := spells_token offset (m := .outsideTag) (by decide) hwidth
          (.text hrun hne hend)
        rwa [← hsource] at hspells

theorem literal_spells (offset : Nat) (content : Text) :
    (literal offset content).Spells .insideTag offset ('"' :: content) := by
  unfold literal
  dsimp only
  split
  · exact spells_fault _ _ _ _ _ _
  · exact spells_fault _ _ _ _ _ _
  · rename_i hfault
    obtain ⟨lexeme, hsource, hwidth, hrun⟩ := exists_literalString_of_scanLiteral hfault
    have hwidth' : 1 + (scanLiteral content).width = ('"' :: (lexeme ++ ['"'])).length := by
      simp only [hwidth, List.length_cons, List.length_append, List.length_nil]
      omega
    have hspells := spells_token offset (m := .insideTag) (by decide) hwidth'
      (.string (scanLiteral content).rest hrun)
    have htext : '"' :: content = '"' :: (lexeme ++ ['"']) ++ (scanLiteral content).rest := by
      conv => lhs; rw [hsource]
      simp
    rwa [← htext] at hspells

theorem name_spells (offset : Nat) {c : Char} (hc : isNameStart c = true) (source : Text) :
    (name offset c source).Spells .insideTag offset (c :: source) := by
  have hword : IsWord (source.dropWhile isNameRest) (c :: source.takeWhile isNameRest) :=
    ⟨hc, fun _ => List.mem_takeWhile_imp, head?_dropWhile_any isNameRest source⟩
  have hspells := spells_token offset (m := .insideTag) (by decide) rfl (.name hword)
  rwa [List.cons_append, List.takeWhile_append_dropWhile] at hspells

theorem function_spells (offset : Nat) (source : Text) :
    (function offset source).Spells .insideTag offset ('@' :: source) := by
  unfold function
  split
  · rename_i hstart
    cases source with
    | nil => contradiction
    | cons c rest =>
        have hc : isNameStart c = true := by simpa using hstart
        have hrest := isNameRest_of_isNameStart hc
        have hword : IsWord ((c :: rest).dropWhile isNameRest)
            ((c :: rest).takeWhile isNameRest) := by
          simp only [List.takeWhile_cons, List.dropWhile_cons, hrest, if_true]
          exact ⟨hc, fun _ => List.mem_takeWhile_imp, head?_dropWhile_any isNameRest rest⟩
        have hwidth : 1 + ((c :: rest).takeWhile isNameRest).length =
            ('@' :: (c :: rest).takeWhile isNameRest).length := by
          rw [List.length_cons, Nat.add_comm]
        have hspells := spells_token offset (m := .insideTag) (by decide) hwidth (.function hword)
        rwa [List.cons_append, List.takeWhile_append_dropWhile] at hspells
  · exact spells_fault _ _ _ _ _ _

theorem isNumeral_takeWhile {c : Char} {source : Text}
    (hc : c.isDigit = true ∨ c = '-' ∧ source.head?.any Char.isDigit = true) :
    IsNumeral (source.dropWhile isNumberRest) (c :: source.takeWhile isNumberRest) := by
  have hrun : ∀ d ∈ source.takeWhile isNumberRest, isNumberRest d = true :=
    fun _ => List.mem_takeWhile_imp
  have hstop := head?_dropWhile_any isNumberRest source
  obtain hdigit | ⟨rfl, hdigit⟩ := hc
  · exact ⟨[], c, _, .inl rfl, rfl, hdigit, hrun, hstop⟩
  · cases source with
    | nil => simp at hdigit
    | cons d rest =>
        have hd : d.isDigit = true := by simpa using hdigit
        have hd' := isNumberRest_of_isDigit hd
        rw [List.takeWhile_cons_of_pos hd'] at hrun ⊢
        exact ⟨['-'], d, _, .inr rfl, rfl, hd, fun e he => hrun e (by simp [he]), hstop⟩

theorem number_spells (offset : Nat) {c : Char} {source : Text}
    (hc : c.isDigit = true ∨ c = '-' ∧ source.head?.any Char.isDigit = true) :
    (number offset c source).Spells .insideTag offset (c :: source) := by
  have hnumeral := isNumeral_takeWhile hc
  have happend : c :: source.takeWhile isNumberRest ++ source.dropWhile isNumberRest =
      c :: source := by
    rw [List.cons_append, List.takeWhile_append_dropWhile]
  unfold number
  dsimp only
  split
  · rename_i hvalue
    have hspells := spells_token offset (m := .insideTag) (by decide) rfl (.integer hnumeral hvalue)
    rwa [happend] at hspells
  · rename_i hvalue
    have hspells := spells_token offset (m := .insideTag) (by decide) rfl (.double hnumeral hvalue)
    rwa [happend] at hspells
  · exact spells_fault _ _ _ _ _ _

theorem close_spells (offset : Nat) (source : Text) :
    (close offset source).Spells .insideTag offset ('$' :: source) := by
  unfold close
  split
  · exact spells_fault _ _ _ _ _ _
  · split
    · subst_vars
      exact spells_token offset (by decide) rfl (.tagClose _)
    · exact spells_fault _ _ _ _ _ _

theorem insideTagAt_spells (offset : Nat) (source : Text) :
    (insideTagAt offset source).Spells .insideTag offset source := by
  unfold insideTagAt
  split
  · exact spells_fault _ _ _ _ _ _
  · rename_i c rest
    split
    · subst_vars; exact close_spells offset rest
    split
    · subst_vars; exact literal_spells offset rest
    split
    · subst_vars; exact function_spells offset rest
    split
    · subst_vars; exact spells_token offset (by decide) rfl (.equals rest)
    split
    · rename_i hminus
      exact number_spells offset (.inr hminus)
    split
    · rename_i hminus hoperator
      have hspelling : Spelling .operator (some (.char c)) [c] rest := by
        refine .operator (isOperator_iff.mp hoperator) ?_
        intro hc
        simpa [hc] using hminus
      exact spells_token offset (by decide) rfl hspelling
    split
    · rename_i hdigit
      exact number_spells offset (.inl hdigit)
    split
    · rename_i hletter
      exact name_spells offset hletter rest
    · exact spells_fault _ _ _ _ _ _

end Lexeme

end TagMarkup
