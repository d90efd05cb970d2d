import Mathlib
import TagMarkup.Program
import TagMarkup.Proofs.Pulling
import TagMarkup.Proofs.RoundTrip

namespace TagMarkup

open CommandLine

theorem Text.decode_toUTF8 (t : Text) : Text.decode (String.ofList t).toUTF8 = .ok t := by
  have hdecode : String.fromUTF8? (String.ofList t).toUTF8 = some (String.ofList t) := by
    rw [String.fromUTF8?, String.toUTF8_eq_toByteArray, dif_pos (String.ofList t).isValidUTF8]
    rfl
  simp only [decode, hdecode, String.toList_ofList]

theorem Text.decode_of_not_isValidUTF8 {bytes : ByteArray} (h : ¬ bytes.IsValidUTF8) :
    ∃ reason, Text.decode bytes = .error reason := by
  rw [decode, String.fromUTF8?, dif_neg h]
  exact ⟨_, rfl⟩

theorem listTokens_eq (source : Text) (items : List (Except LexError Token)) :
    listTokens source items =
      ((collect items).map fun tokens => tokens.flatMap fun t => t.listing ++ ['\n']).mapError
        fun e => e.pretty source := by
  induction items with
  | nil => rfl
  | cons item items ih =>
      cases item with
      | error e => rfl
      | ok t =>
          rw [listTokens, ih, collect]
          cases collect items with
          | error e => rfl
          | ok tokens => simp [Except.map, Except.mapError]

theorem tokenListing_of_ok {source : Text} {tokens : List Token}
    (h : tokenize source = .ok tokens) :
    tokenListing source = .ok (tokens.flatMap fun t => t.listing ++ ['\n']) := by
  rw [tokenListing, listTokens_eq, ← tokenize, h]
  rfl

theorem tokenListing_of_error {source : Text} {e : LexError} (h : tokenize source = .error e) :
    tokenListing source = .error (e.pretty source) := by
  rw [tokenListing, listTokens_eq, ← tokenize, h]
  rfl

theorem Document.roundTrips_of_parse {options : ParseOptions} {source : Text} {d : Document}
    (h : Document.parse options source = .ok d) : d.roundTrips = true := by
  obtain ⟨hwell, hbuilt⟩ := wellFormed_of_parse h
  rw [roundTrips, parse_render hwell hbuilt]
  exact beq_self_eq_true d

namespace CommandLine

/-- The arguments after the subcommand when the standard input is parsed. -/
def parseArguments (tree allowUnclosed : Bool) : List Text :=
  ['-'] :: ((if tree then [("--tree" : Text)] else []) ++
    if allowUnclosed then [("--allow-unclosed" : Text)] else [])

theorem ofArguments_parse {tree allowUnclosed : Bool} {arguments : List Text}
    (h : arguments.Perm (parseArguments tree allowUnclosed)) :
    Request.ofArguments ("parse" :: arguments) = .run (.parse ['-'] tree allowUnclosed) := by
  have all : ∀ tree allowUnclosed, ∀ arguments ∈ (parseArguments tree allowUnclosed).permutations',
      Request.ofArguments ("parse" :: arguments) = .run (.parse ['-'] tree allowUnclosed) := by
    decide
  exact all tree allowUnclosed arguments (List.mem_permutations'.mpr h)

theorem ofArguments_lex : Request.ofArguments ["lex", ['-']] = .run (.lex ['-']) := by
  decide

end CommandLine

namespace Program

section

variable (colored : Bool) {source : Text}

theorem lex_of_ok {tokens : List Token} (h : tokenize source = .ok tokens) :
    lex colored source = succeed (tokens.flatMap fun t => t.listing ++ ['\n']) := by
  rw [lex, tokenListing_of_ok h]

theorem lex_of_error {e : LexError} (h : tokenize source = .error e) :
    lex colored source = fail colored (e.pretty source) := by
  rw [lex, tokenListing_of_error h]

variable {options : ParseOptions} (tree : Bool)

theorem parse_of_ok {d : Document} (h : Document.parse options source = .ok d) :
    parse colored options tree source = succeed (if tree then d.outline else d.render) := by
  simp only [parse, h, d.roundTrips_of_parse h, if_true, succeed]

theorem parse_of_error {e : ParseError} (h : Document.parse options source = .error e) :
    parse colored options tree source = fail colored (e.pretty source) := by
  rw [parse, h]

end

def Outcome.Settles (o : Outcome) : Prop :=
  o.exitCode = 0 ∧ o.err = [] ∨
    o.exitCode = 1 ∧ o.out = [] ∧ ("[ss] Failed: " : Text) <+: o.err

theorem settles_succeed (out : Text) : (succeed out).Settles :=
  .inl ⟨rfl, rfl⟩

theorem settles_fail (message : Text) : (fail false message).Settles :=
  .inr ⟨rfl, rfl, message ++ ['\n'], by simp [fail, failure, Style.paint]⟩

def lexed (w : World) : Outcome :=
  answer false w (Request.ofArguments ["lex", ['-']])

def parsed (w : World) (tree allowUnclosed : Bool) : Outcome :=
  answer false w (Request.ofArguments ("parse" :: parseArguments tree allowUnclosed))

theorem lexed_eq (w : World) : lexed w = withSource false w ['-'] (lex false) := by
  rw [lexed, ofArguments_lex]
  rfl

theorem parsed_eq (w : World) (tree allowUnclosed : Bool) :
    parsed w tree allowUnclosed = withSource false w ['-'] (parse false ⟨allowUnclosed⟩ tree) := by
  rw [parsed, ofArguments_parse (List.Perm.refl _)]
  rfl

theorem withSource_of_ok {w : World} {source : Text} {work : Text → Outcome}
    (h : Text.decode w.stdin = .ok source) : withSource false w ['-'] work = work source := by
  rw [withSource, World.source, if_pos rfl, h]

theorem withSource_of_error {w : World} {reason : Text} {work : Text → Outcome}
    (h : Text.decode w.stdin = .error reason) :
    withSource false w ['-'] work = fail false reason := by
  rw [withSource, World.source, if_pos rfl, h]

theorem parsed_of_ok {w : World} {source : Text} {allowUnclosed : Bool} {d : Document}
    (hsource : Text.decode w.stdin = .ok source)
    (hparse : Document.parse ⟨allowUnclosed⟩ source = .ok d) (tree : Bool) :
    parsed w tree allowUnclosed = succeed (if tree then d.outline else d.render) := by
  rw [parsed_eq, withSource_of_ok hsource, parse_of_ok false tree hparse]

theorem parsed_of_error {w : World} {source : Text} {allowUnclosed : Bool} {e : ParseError}
    (hsource : Text.decode w.stdin = .ok source)
    (hparse : Document.parse ⟨allowUnclosed⟩ source = .error e) (tree : Bool) :
    parsed w tree allowUnclosed = fail false (e.pretty source) := by
  rw [parsed_eq, withSource_of_ok hsource, parse_of_error false tree hparse]

theorem lexed_settles (w : World) : (lexed w).Settles := by
  rw [lexed_eq]
  cases hsource : Text.decode w.stdin with
  | error reason =>
      rw [withSource_of_error hsource]
      exact settles_fail reason
  | ok source =>
      rw [withSource_of_ok hsource]
      cases htokens : tokenize source with
      | ok tokens =>
          rw [lex_of_ok false htokens]
          exact settles_succeed _
      | error e =>
          rw [lex_of_error false htokens]
          exact settles_fail _

/-- The ways to answer a request to parse the standard input. -/
inductive Parsing (w : World) (allowUnclosed : Bool) : Prop
  | unreadable {reason : Text} (hsource : Text.decode w.stdin = .error reason)
      (hparsed : ∀ tree, parsed w tree allowUnclosed = fail false reason)
  | document {source : Text} {d : Document} (hsource : Text.decode w.stdin = .ok source)
      (hparse : Document.parse ⟨allowUnclosed⟩ source = .ok d)
      (hparsed : ∀ tree, parsed w tree allowUnclosed =
        succeed (if tree then d.outline else d.render))
  | rejected {source : Text} {e : ParseError} (hsource : Text.decode w.stdin = .ok source)
      (hparse : Document.parse ⟨allowUnclosed⟩ source = .error e)
      (hparsed : ∀ tree, parsed w tree allowUnclosed = fail false (e.pretty source))

theorem parsing (w : World) (allowUnclosed : Bool) : Parsing w allowUnclosed := by
  cases hsource : Text.decode w.stdin with
  | error reason =>
      refine .unreadable hsource ?_
      intro tree
      rw [parsed_eq, withSource_of_error hsource]
  | ok source =>
      cases hparse : Document.parse ⟨allowUnclosed⟩ source with
      | ok d => exact .document hsource hparse (parsed_of_ok hsource hparse)
      | error e => exact .rejected hsource hparse (parsed_of_error hsource hparse)

theorem Parsing.tree_eq {w : World} {allowUnclosed : Bool} (h : Parsing w allowUnclosed) :
    (parsed w true allowUnclosed).exitCode = (parsed w false allowUnclosed).exitCode ∧
      (parsed w true allowUnclosed).err = (parsed w false allowUnclosed).err := by
  cases h with
  | unreadable _ hparsed | document _ _ hparsed | rejected _ _ hparsed =>
      rw [hparsed, hparsed]
      exact ⟨rfl, rfl⟩

theorem Parsing.settles {w : World} {allowUnclosed : Bool} (h : Parsing w allowUnclosed)
    (tree : Bool) : (parsed w tree allowUnclosed).Settles := by
  cases h with
  | unreadable _ hparsed | rejected _ _ hparsed =>
      rw [hparsed]
      exact settles_fail _
  | document _ _ hparsed =>
      rw [hparsed]
      exact settles_succeed _

theorem Parsing.exists_document {w : World} {allowUnclosed : Bool} (h : Parsing w allowUnclosed)
    {tree : Bool} (hexit : (parsed w tree allowUnclosed).exitCode = 0) :
    ∃ source d, Text.decode w.stdin = .ok source ∧
      Document.parse ⟨allowUnclosed⟩ source = .ok d ∧
      ∀ tree, parsed w tree allowUnclosed = succeed (if tree then d.outline else d.render) := by
  cases h with
  | unreadable _ hparsed | rejected _ _ hparsed =>
      rw [hparsed] at hexit
      cases hexit
  | document hsource hparse hparsed => exact ⟨_, _, hsource, hparse, hparsed⟩

theorem lexed_of_document {w : World} {options : ParseOptions} {source : Text} {d : Document}
    (hsource : Text.decode w.stdin = .ok source)
    (hparse : Document.parse options source = .ok d) : (lexed w).exitCode = 0 := by
  obtain ⟨front, last, missing, htokens, -⟩ := Document.linearises_of_parse hparse
  rw [lexed_eq, withSource_of_ok hsource, lex_of_ok false htokens]
  rfl

theorem parsed_again {options : ParseOptions} {source : Text} {d : Document}
    (hparse : Document.parse options source = .ok d) {again : World}
    (hagain : again.stdin = (String.ofList d.render).toUTF8) :
    parsed again false false = succeed d.render := by
  obtain ⟨hwell, hbuilt⟩ := Document.wellFormed_of_parse hparse
  have hsource : Text.decode again.stdin = .ok d.render := by
    rw [hagain, Text.decode_toUTF8]
  exact parsed_of_ok hsource (Document.parse_render hwell hbuilt) false

/-- How the commands on a standard input answer it, each on its own and compared. -/
structure AllOrNothing (w : World) : Prop where
  lexed_settles : (lexed w).Settles
  parsed_settles : ∀ tree allowUnclosed, (parsed w tree allowUnclosed).Settles
  any_order : ∀ tree allowUnclosed arguments, arguments.Perm (parseArguments tree allowUnclosed) →
    answer false w (Request.ofArguments ("parse" :: arguments)) = parsed w tree allowUnclosed
  fails_of_invalid : ¬ w.stdin.IsValidUTF8 →
    (lexed w).exitCode = 1 ∧ ∀ tree allowUnclosed, (parsed w tree allowUnclosed).exitCode = 1
  tree_eq : ∀ allowUnclosed,
    (parsed w true allowUnclosed).exitCode = (parsed w false allowUnclosed).exitCode ∧
      (parsed w true allowUnclosed).err = (parsed w false allowUnclosed).err
  lexed_of_parsed : ∀ tree allowUnclosed, (parsed w tree allowUnclosed).exitCode = 0 →
    (lexed w).exitCode = 0
  same_err : ∀ tree allowUnclosed source e, Text.decode w.stdin = .ok source →
    Document.parse ⟨allowUnclosed⟩ source = .error (.lex e) →
      (lexed w).exitCode = 1 ∧ (parsed w tree allowUnclosed).err = (lexed w).err
  parsed_again : ∀ allowUnclosed, (parsed w false allowUnclosed).exitCode = 0 → ∀ again : World,
    again.stdin = (String.ofList (parsed w false allowUnclosed).out).toUTF8 →
      parsed again false false = ⟨0, (parsed w false allowUnclosed).out, []⟩

/-- Listing and parsing the standard input succeed or fail as a whole, agree on lexical errors, and
what a parse prints is printed again when it is parsed. -/
theorem answer_allOrNothing (w : World) : AllOrNothing w where
  lexed_settles := lexed_settles w
  parsed_settles tree allowUnclosed := (parsing w allowUnclosed).settles tree
  any_order tree allowUnclosed arguments harguments := by
    rw [parsed, ofArguments_parse harguments, ofArguments_parse (List.Perm.refl _)]
  fails_of_invalid hinvalid := by
    obtain ⟨reason, hsource⟩ := Text.decode_of_not_isValidUTF8 hinvalid
    rw [lexed_eq, withSource_of_error hsource]
    refine ⟨rfl, ?_⟩
    intro tree allowUnclosed
    rw [parsed_eq, withSource_of_error hsource]
    rfl
  tree_eq allowUnclosed := (parsing w allowUnclosed).tree_eq
  lexed_of_parsed tree allowUnclosed hexit := by
    obtain ⟨source, d, hsource, hparse, -⟩ := (parsing w allowUnclosed).exists_document hexit
    exact lexed_of_document hsource hparse
  same_err tree allowUnclosed source e hsource hparse := by
    rw [lexed_eq, parsed_eq, withSource_of_ok hsource, withSource_of_ok hsource,
      lex_of_error false (Document.tokenize_of_lex hparse), parse_of_error false tree hparse]
    exact ⟨rfl, rfl⟩
  parsed_again allowUnclosed hexit again hagain := by
    obtain ⟨source, d, -, hparse, hparsed⟩ := (parsing w allowUnclosed).exists_document hexit
    rw [hparsed] at hagain ⊢
    exact Program.parsed_again hparse hagain

theorem answer_allOrNothing_unclosed :
    (parsed ⟨"é{$FOR i 1 2$}".toUTF8, fun _ => .ok .empty⟩ false true).exitCode = 0 ∧
    (lexed ⟨"é{$FOR i 1 2$}".toUTF8, fun _ => .ok .empty⟩).exitCode = 0 ∧
    parsed ⟨"é{$FOR i 1 2$}{$END$}".toUTF8, fun _ => .ok .empty⟩ false false =
      ⟨0, "é{$FOR i 1 2$}{$END$}", []⟩ := by
  have hparse : Document.parse ⟨true⟩ "é{$FOR i 1 2$}" =
      .ok ⟨[.text ['é'], .loop ⟨['i'], .integer 1, .integer 2, none⟩ []]⟩ := by
    cbv
  have hrender : Document.render ⟨[.text ['é'], .loop ⟨['i'], .integer 1, .integer 2, none⟩ []]⟩ =
      "é{$FOR i 1 2$}{$END$}" := by
    cbv
  have hsettles := answer_allOrNothing ⟨"é{$FOR i 1 2$}".toUTF8, fun _ => .ok .empty⟩
  have hparsed : parsed ⟨"é{$FOR i 1 2$}".toUTF8, fun _ => .ok .empty⟩ false true =
      succeed "é{$FOR i 1 2$}{$END$}" := by
    rw [parsed_eq, withSource_of_ok (Text.decode_toUTF8 "é{$FOR i 1 2$}"),
      parse_of_ok false false hparse, ← hrender]
    rfl
  have hexit : (parsed ⟨"é{$FOR i 1 2$}".toUTF8, fun _ => .ok .empty⟩ false true).exitCode = 0 := by
    rw [hparsed]
    rfl
  refine ⟨hexit, hsettles.lexed_of_parsed false true hexit, ?_⟩
  have hagain := hsettles.parsed_again true hexit
    ⟨"é{$FOR i 1 2$}{$END$}".toUTF8, fun _ => .ok .empty⟩
  rw [hparsed] at hagain
  exact hagain rfl

end Program

end TagMarkup
