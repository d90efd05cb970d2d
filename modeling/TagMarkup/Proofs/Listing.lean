import TagMarkup.Proofs.Outcomes
import TagMarkup.Proofs.Scientific

namespace TagMarkup

namespace TokenValue

/-- Whether a value is a text, an integer, a character or a finite double. -/
def IsFinite : TokenValue → Prop
  | text _ => True
  | integer _ => True
  | double value => value.isFinite = true
  | char _ => True

@[simp] theorem inspect_text (content : Text) :
    inspect (.text content) = ['S', 't', 'r', 'i', 'n', 'g', '('] ++ Quoted.text content ++ [')'] :=
  rfl

@[simp] theorem inspect_integer (value : Int64) :
    inspect (.integer value) =
      ['I', 'n', 't', 'e', 'g', 'e', 'r', '('] ++ Text.ofInt value.toInt ++ [')'] :=
  rfl

@[simp] theorem inspect_double (value : Binary64) :
    inspect (.double value) = ['F', 'l', 'o', 'a', 't', '('] ++ value.renderGeneral ++ [')'] :=
  rfl

@[simp] theorem inspect_char (symbol : Char) :
    inspect (.char symbol) = ['C', 'h', 'a', 'r', '('] ++ Quoted.char symbol ++ [')'] :=
  rfl

/-- From a text that begins with a listed value one can tell the value, and where it ends. -/
theorem inspect_append_inj {v w : TokenValue} {rest rest' : Text} (hv : v.IsFinite)
    (hw : w.IsFinite) (h : v.inspect ++ rest = w.inspect ++ rest') : v = w ∧ rest = rest' := by
  cases v with
  | text content =>
      cases w with
      | text other =>
          simp only [inspect_text, List.append_assoc, List.append_cancel_left_eq] at h
          obtain ⟨rfl, htail⟩ := Quoted.text_append_inj h
          exact ⟨rfl, List.append_cancel_left htail⟩
      | _ => simp at h
  | integer value =>
      cases w with
      | integer other =>
          simp only [inspect_integer, List.append_assoc, List.append_cancel_left_eq] at h
          have hparenthesis (i : Int) : ')' ∉ Text.ofInt i :=
            Text.not_mem_ofInt (by decide) (by decide) i
          obtain ⟨htext, hrest⟩ :=
            Text.append_cons_inj (hparenthesis value.toInt) (hparenthesis other.toInt) h
          obtain rfl := Int64.toInt_inj.mp (Text.ofInt_inj htext)
          exact ⟨rfl, hrest⟩
      | _ => simp at h
  | double value =>
      cases w with
      | double other =>
          simp only [inspect_double, List.append_assoc, List.append_cancel_left_eq] at h
          have hparenthesis (v : Binary64) : ')' ∉ v.renderGeneral :=
            fun hmem => absurd (Binary64.mem_renderGeneral hmem) (by decide)
          obtain ⟨htext, hrest⟩ :=
            Text.append_cons_inj (hparenthesis value) (hparenthesis other) h
          obtain rfl := Binary64.renderGeneral_inj hv hw htext
          exact ⟨rfl, hrest⟩
      | _ => simp at h
  | char symbol =>
      cases w with
      | char other =>
          simp only [inspect_char, List.append_assoc, List.append_cancel_left_eq] at h
          obtain ⟨rfl, htail⟩ := Quoted.char_append_inj h
          exact ⟨rfl, List.append_cancel_left htail⟩
      | _ => simp at h

theorem newline_not_mem_inspect (v : TokenValue) : '\n' ∉ v.inspect := by
  cases v with
  | text content => simp [Quoted.not_mem_newline_text]
  | integer value =>
      have hline : '\n' ∉ Text.ofInt value.toInt := Text.not_mem_ofInt (by decide) (by decide) _
      simp [hline]
  | double value =>
      have hline : '\n' ∉ value.renderGeneral :=
        fun hmem => absurd (Binary64.mem_renderGeneral hmem) (by decide)
      simp [hline]
  | char symbol => simp [Quoted.not_mem_newline_char]

end TokenValue

namespace TokenKind

/-- The column in which the name of a kind stands. -/
def column (kind : TokenKind) : Text :=
  kind.label.rightpad 12 ' '

theorem length_column (kind : TokenKind) : kind.column.length = 12 := by
  cases kind <;> rfl

theorem column_inj {kind other : TokenKind} (h : kind.column = other.column) : kind = other := by
  revert h
  cases kind <;> cases other <;> decide

theorem newline_not_mem_column (kind : TokenKind) : '\n' ∉ kind.column := by
  cases kind <;> decide

end TokenKind

namespace Token

/-- What stands after the kind of a token in its line. -/
def details : Option TokenValue → Nat → Text
  | none, offset => ' ' :: '@' :: Text.ofNat offset
  | some value, offset => ' ' :: (value.inspect ++ ' ' :: '@' :: Text.ofNat offset)

theorem listing_eq (t : Token) : t.listing = t.kind.column ++ details t.value t.offset := by
  obtain ⟨kind, value, offset⟩ := t
  cases value <;> simp [listing, TokenKind.column, details]

theorem details_inj {value value' : Option TokenValue} {offset offset' : Nat}
    (hfinite : ∀ v ∈ value, v.IsFinite) (hfinite' : ∀ v ∈ value', v.IsFinite)
    (h : details value offset = details value' offset') : value = value' ∧ offset = offset' := by
  have hoffset {n m : Nat} (h : ' ' :: '@' :: Text.ofNat n = ' ' :: '@' :: Text.ofNat m) : n = m :=
    Text.ofNat_inj (List.cons_eq_cons.mp (List.cons_eq_cons.mp h).2).2
  cases value with
  | none =>
      cases value' with
      | none => exact ⟨rfl, hoffset h⟩
      | some w => cases w <;> simp [details] at h
  | some v =>
      cases value' with
      | none => cases v <;> simp [details] at h
      | some w =>
          obtain ⟨rfl, htail⟩ := TokenValue.inspect_append_inj (hfinite v rfl) (hfinite' w rfl)
            (List.cons_eq_cons.mp h).2
          exact ⟨rfl, hoffset htail⟩

theorem IsSpelled.isFinite {t : Token} (h : t.IsSpelled) : ∀ value ∈ t.value, value.IsFinite := by
  obtain ⟨kind, value, offset⟩ := t
  obtain ⟨lexeme, after, hspelling⟩ := h
  rintro v rfl
  cases hspelling with
  | double hrun hvalue => exact Number.isFinite_of_parse? hvalue
  | _ => trivial

/-- Tokens that can be written in a source are told apart by their lines. -/
theorem listing_inj {t u : Token} (ht : t.IsSpelled) (hu : u.IsSpelled)
    (h : t.listing = u.listing) : t = u := by
  have hlength : t.kind.column.length = u.kind.column.length :=
    t.kind.length_column.trans u.kind.length_column.symm
  rw [listing_eq, listing_eq] at h
  obtain ⟨hcolumn, hdetails⟩ := List.append_inj h hlength
  obtain ⟨hvalue, hoffset⟩ := details_inj ht.isFinite hu.isFinite hdetails
  obtain ⟨kind, value, offset⟩ := t
  obtain ⟨kind', value', offset'⟩ := u
  obtain rfl : kind = kind' := TokenKind.column_inj hcolumn
  obtain rfl : value = value' := hvalue
  obtain rfl : offset = offset' := hoffset
  rfl

theorem newline_not_mem_listing (t : Token) : '\n' ∉ t.listing := by
  have hoffset : '\n' ∉ Text.ofNat t.offset := Text.not_mem_ofNat (by decide) t.offset
  have hcolumn := t.kind.newline_not_mem_column
  rw [listing_eq]
  cases t.value with
  | none => simp [details, hcolumn, hoffset]
  | some v => simp [details, hcolumn, hoffset, v.newline_not_mem_inspect]

theorem map_listing_inj {tokens others : List Token} (htokens : ∀ t ∈ tokens, t.IsSpelled)
    (hothers : ∀ t ∈ others, t.IsSpelled)
    (h : tokens.map listing = others.map listing) : tokens = others := by
  induction tokens generalizing others with
  | nil => exact (List.map_eq_nil_iff.mp h.symm).symm
  | cons t tokens ih =>
      cases others with
      | nil => simp at h
      | cons u others =>
          rw [List.forall_mem_cons] at htokens hothers
          obtain ⟨hfirst, hlater⟩ := List.cons_eq_cons.mp h
          rw [listing_inj htokens.1 hothers.1 hfirst, ih htokens.2 hothers.2 hlater]

end Token

/-- The listing of a source has one line for each of its tokens. -/
theorem tokenListing_eq_ok_iff {source listing : Text} :
    tokenListing source = .ok listing ↔
      ∃ tokens, tokenize source = .ok tokens ∧
        listing = (tokens.map Token.listing).flatMap (· ++ ['\n']) := by
  cases h : tokenize source with
  | error e => simp [tokenListing_of_error h]
  | ok tokens => simp [tokenListing_of_ok h, List.flatMap_map, eq_comm]

theorem splitOn_listing (tokens : List Token) :
    ((tokens.map Token.listing).flatMap (· ++ ['\n'])).splitOn '\n' =
      tokens.map Token.listing ++ [[]] :=
  Text.splitOn_lines (List.forall_mem_map.mpr fun t _ => t.newline_not_mem_listing)

/-- A listing tells what the tokens of its source are, line by line, and there is one for every
source without a lexical error. -/
theorem tokenListing_faithful (source : Text) :
    ((∃ listing, tokenListing source = .ok listing) ↔ ∃ tokens, tokenize source = .ok tokens) ∧
    (∀ tokens, tokenize source = .ok tokens → ∃ listing, tokenListing source = .ok listing ∧
      listing.splitOn '\n' = tokens.map Token.listing ++ [[]]) ∧
    (∀ e, tokenize source = .error e →
      tokenListing source = .error ((ParseError.lex e).pretty source)) ∧
    ∀ other listing, tokenListing source = .ok listing → tokenListing other = .ok listing →
      ∃ tokens, tokenize source = .ok tokens ∧ tokenize other = .ok tokens := by
  refine ⟨?_, ?_, fun e h => tokenListing_of_error h, ?_⟩
  · simp [tokenListing_eq_ok_iff]
  · intro tokens h
    exact ⟨_, tokenListing_eq_ok_iff.mpr ⟨tokens, h, rfl⟩, splitOn_listing tokens⟩
  · intro other listing h hother
    obtain ⟨tokens, htokens, hlisting⟩ := tokenListing_eq_ok_iff.mp h
    obtain ⟨others, hothers, hlisting'⟩ := tokenListing_eq_ok_iff.mp hother
    have hlines := splitOn_listing tokens
    rw [← hlisting, hlisting', splitOn_listing others] at hlines
    obtain rfl := Token.map_listing_inj (separated_of_tokenize hothers).spelled
      (separated_of_tokenize htokens).spelled (List.append_cancel_right hlines)
    exact ⟨others, htokens, hothers⟩

/-- A line end in a string, spelled as an escape and as it is: each token has one line. -/
theorem tokenListing_faithful_line_end :
    ∃ listing tokens,
      tokenListing ['{', '$', '=', ' ', '"', '\\', 'n', '"', '$', '}'] = .ok listing ∧
      tokenListing ['{', '$', '=', ' ', '"', '\n', '"', ' ', '$', '}'] = .ok listing ∧
      tokenize ['{', '$', '=', ' ', '"', '\\', 'n', '"', '$', '}'] = .ok tokens ∧
      tokenize ['{', '$', '=', ' ', '"', '\n', '"', ' ', '$', '}'] = .ok tokens ∧
      listing.splitOn '\n' = ["tag-open     @0".toList, "name         String(\"=\") @2".toList,
        "string       String(\"\\n\") @4".toList, "tag-close    @8".toList,
        "end-of-input @10".toList, []] := by
  have hescaped : tokenize ['{', '$', '=', ' ', '"', '\\', 'n', '"', '$', '}'] =
      .ok [⟨.tagOpen, none, 0⟩, ⟨.name, some (.text ['=']), 2⟩, ⟨.string, some (.text ['\n']), 4⟩,
        ⟨.tagClose, none, 8⟩, ⟨.endOfInput, none, 10⟩] := by
    cbv
  have hplain : tokenize ['{', '$', '=', ' ', '"', '\n', '"', ' ', '$', '}'] =
      .ok [⟨.tagOpen, none, 0⟩, ⟨.name, some (.text ['=']), 2⟩, ⟨.string, some (.text ['\n']), 4⟩,
        ⟨.tagClose, none, 8⟩, ⟨.endOfInput, none, 10⟩] := by
    cbv
  obtain ⟨-, hlines, -, htokens⟩ :=
    tokenListing_faithful ['{', '$', '=', ' ', '"', '\\', 'n', '"', '$', '}']
  obtain ⟨listing, hlisting, hsplit⟩ := hlines _ hescaped
  have hother : tokenListing ['{', '$', '=', ' ', '"', '\n', '"', ' ', '$', '}'] = .ok listing := by
    rw [← hlisting, tokenListing_of_ok hescaped, tokenListing_of_ok hplain]
  obtain ⟨tokens, h, h'⟩ := htokens _ listing hlisting hother
  exact ⟨listing, tokens, hlisting, hother, h, h', hsplit.trans (by decide +kernel)⟩

end TagMarkup
