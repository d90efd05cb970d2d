import Mathlib
import TagMarkup.Document.Outline
import TagMarkup.Proofs.Nodes
import TagMarkup.Proofs.Quoted
import TagMarkup.Proofs.RoundTrip

namespace TagMarkup

/-! What stands in a line is read in one way. -/

theorem Closes.blank (word rest : Text) : Closes (' ' :: word ++ rest) :=
  .cons (by decide) (by decide) (word ++ rest)

theorem Closes.parenthesis (rest : Text) : Closes (')' :: rest) :=
  .cons (by decide) (by decide) rest

theorem Element.exists_spelling {e : Element} (h : e.WellFormed) {after : Text}
    (hafter : Closes after) :
    ∃ kind value, Mode.insideTag.Admits kind ∧ Spelling kind value e.render after ∧
      Token.Denotes ⟨kind, value, 0⟩ e := by
  obtain ⟨kind, value, hadmits, -, hspelling, hdenotes⟩ := isWritten h _ (Delimits.blank [])
  exact ⟨kind, value, hadmits, hspelling.before_closes hadmits.1 hadmits.2.2 hafter, hdenotes 0⟩

/-- From a text that begins with an element one can tell the element, and where it ends. -/
theorem Element.render_append_inj {a b : Element} (ha : a.WellFormed) (hb : b.WellFormed)
    {rest rest' : Text} (hrest : Closes rest) (hrest' : Closes rest')
    (h : a.render ++ rest = b.render ++ rest') : a = b ∧ rest = rest' := by
  obtain ⟨kind, value, hadmits, hspelling, hdenotes⟩ := exists_spelling ha hrest
  obtain ⟨kind', value', hadmits', hspelling', hdenotes'⟩ := exists_spelling hb hrest'
  obtain ⟨rfl, rfl, -, hrests⟩ := hspelling.unique hadmits hspelling' hadmits' h
  have helement := Token.element?_eq_some_iff.mpr hdenotes
  rw [Token.element?_eq_some_iff.mpr hdenotes'] at helement
  exact ⟨(Option.some.inj helement).symm, hrests⟩

theorem ElementKind.parenthesis_not_mem_name (kind : ElementKind) : '(' ∉ kind.name := by
  cases kind <;> decide

theorem Element.outline_append (e : Element) (rest : Text) :
    e.outline ++ rest = e.kind.name ++ '(' :: (e.render ++ ')' :: rest) := by
  simp [outline]

theorem Element.outline_append_inj {a b : Element} (ha : a.WellFormed) (hb : b.WellFormed)
    {rest rest' : Text} (h : a.outline ++ rest = b.outline ++ rest') : a = b ∧ rest = rest' := by
  rw [outline_append, outline_append] at h
  obtain ⟨-, hrenders⟩ := Text.append_cons_inj (ElementKind.parenthesis_not_mem_name _)
    (ElementKind.parenthesis_not_mem_name _) h
  obtain ⟨rfl, hrests⟩ :=
    render_append_inj ha hb (.parenthesis rest) (.parenthesis rest') hrenders
  exact ⟨rfl, (List.cons_eq_cons.mp hrests).2⟩

theorem Element.outlines_inj {as bs : List Element} (has : ∀ e ∈ as, e.WellFormed)
    (hbs : ∀ e ∈ bs, e.WellFormed)
    (h : as.flatMap (fun e => ',' :: ' ' :: e.outline) ++ [']'] =
      bs.flatMap (fun e => ',' :: ' ' :: e.outline) ++ [']']) : as = bs := by
  induction as generalizing bs with
  | nil =>
      cases bs with
      | nil => rfl
      | cons b bs => exact absurd (List.cons_eq_cons.mp h).1 (by decide)
  | cons a as ih =>
      cases bs with
      | nil => exact absurd (List.cons_eq_cons.mp h).1 (by decide)
      | cons b bs =>
          rw [List.forall_mem_cons] at has hbs
          simp only [List.flatMap_cons, List.cons_append, List.append_assoc, List.cons.injEq,
            true_and] at h
          obtain ⟨rfl, htail⟩ := outline_append_inj has.1 hbs.1 h
          rw [ih has.2 hbs.2 htail]

theorem Element.intercalate_outlines (a : Element) (as : List Element) :
    [',', ' '].intercalate ((a :: as).map outline) =
      a.outline ++ as.flatMap (fun e => ',' :: ' ' :: e.outline) := by
  induction as generalizing a with
  | nil => simp
  | cons b as ih =>
      rw [List.map_cons, List.map_cons, List.intercalate_cons_cons, ← List.map_cons, ih]
      simp

theorem Element.intercalate_outlines_inj {as bs : List Element} (has : ∀ e ∈ as, e.WellFormed)
    (hbs : ∀ e ∈ bs, e.WellFormed)
    (h : [',', ' '].intercalate (as.map outline) ++ [']'] =
      [',', ' '].intercalate (bs.map outline) ++ [']']) : as = bs := by
  have hstart (a : Element) (rest : Text) : [']'] ≠ a.outline ++ rest := by
    rw [outline_append]
    cases a.kind <;> exact fun heq => absurd (List.cons_eq_cons.mp heq).1 (by decide)
  cases as with
  | nil =>
      cases bs with
      | nil => rfl
      | cons b bs =>
          rw [intercalate_outlines, List.append_assoc] at h
          exact absurd h (hstart b _)
  | cons a as =>
      rw [intercalate_outlines, List.append_assoc] at h
      cases bs with
      | nil => exact absurd h.symm (hstart a _)
      | cons b bs =>
          rw [intercalate_outlines, List.append_assoc] at h
          rw [List.forall_mem_cons] at has hbs
          obtain ⟨rfl, htail⟩ := outline_append_inj has.1 hbs.1 h
          rw [outlines_inj has.2 hbs.2 htail]

/-- The step at the end of the line of a loop. -/
def stepOutline (step : Option Number) : Text :=
  step.elim [] fun step => [' ', 's', 't', 'e', 'p', ' '] ++ step.render

theorem LoopHeader.outline_eq (header : LoopHeader) :
    header.outline = ['f', 'o', 'r', ' '] ++ (header.name ++ ([' ', 'f', 'r', 'o', 'm', ' '] ++
      (header.start.render ++ ([' ', 't', 'o', ' '] ++ (header.stop.render ++
        stepOutline header.step))))) := by
  obtain ⟨name, start, stop, step⟩ := header
  unfold outline
  cases step <;> simp [stepOutline]

theorem closes_stepOutline (step : Option Number) : Closes (stepOutline step) := by
  cases step with
  | none => exact .nil
  | some step => exact .blank _ _

theorem stepOutline_inj {step step' : Option Number} (h : ∀ n ∈ step.toList, n.IsFinite)
    (h' : ∀ n ∈ step'.toList, n.IsFinite) (hsteps : stepOutline step = stepOutline step') :
    step = step' := by
  cases step with
  | none =>
      cases step' with
      | none => rfl
      | some step' => contradiction
  | some step =>
      cases step' with
      | none => contradiction
      | some step' =>
          have hrenders := List.append_cancel_left hsteps
          have hread := Number.parse?_render (h step (by simp))
          rw [hrenders] at hread
          exact hread.symm.trans (Number.parse?_render (h' step' (by simp)))

theorem LoopHeader.outline_inj {a b : LoopHeader} (ha : isValidName a.name = true)
    (hb : isValidName b.name = true) (habounds : ∀ bound ∈ a.bounds, bound.IsFinite)
    (hbbounds : ∀ bound ∈ b.bounds, bound.IsFinite) (h : a.outline = b.outline) : a = b := by
  rw [outline_eq, outline_eq] at h
  obtain ⟨name, start, stop, step⟩ := a
  obtain ⟨name', start', stop', step'⟩ := b
  simp only [bounds, List.forall_mem_cons] at habounds hbbounds
  obtain ⟨hstart, hstop, hstep⟩ := habounds
  obtain ⟨hstart', hstop', hstep'⟩ := hbbounds
  obtain ⟨hnames, hfrom⟩ := Element.render_append_inj (a := .variable name) (b := .variable name')
    ha hb (.blank _ _) (.blank _ _) (List.append_cancel_left h)
  obtain ⟨hstarts, hto⟩ := Element.render_append_inj (a := .number start) (b := .number start')
    hstart hstart' (.blank _ _) (.blank _ _) (List.append_cancel_left hfrom)
  obtain ⟨hstops, hlast⟩ := Element.render_append_inj (a := .number stop) (b := .number stop')
    hstop hstop' (closes_stepOutline step) (closes_stepOutline step')
    (List.append_cancel_left hto)
  obtain rfl := Element.variable.inj hnames
  obtain rfl := Element.number.inj hstarts
  obtain rfl := Element.number.inj hstops
  rw [stepOutline_inj hstep hstep' hlast]

theorem Node.headline_text (content : Text) :
    (Node.text content).headline = ['t', 'e', 'x', 't', ' '] ++ (Quoted.text content ++ []) := by
  change "text ".toList ++ Quoted.text content = _
  simp

theorem Node.headline_echo (elements : List Element) :
    (Node.echo elements).headline = ['e', 'c', 'h', 'o', ' ', '['] ++
      ([',', ' '].intercalate (elements.map Element.outline) ++ [']']) := by
  change "echo [".toList ++ [',', ' '].intercalate (elements.map Element.outline) ++ "]".toList = _
  simp

theorem Node.headline_loop (header : LoopHeader) (body : List Node) :
    (Node.loop header body).headline = header.outline := rfl

/-- The character that the line of a node begins with. -/
def Node.initial : Node → Char
  | .text _ => 't'
  | .echo _ => 'e'
  | .loop _ _ => 'f'

theorem Node.head?_headline (node : Node) : node.headline.head? = some node.initial := by
  cases node with
  | text content =>
      rw [headline_text]
      rfl
  | echo elements =>
      rw [headline_echo]
      rfl
  | loop header body =>
      rw [headline_loop, LoopHeader.outline_eq]
      rfl

theorem Node.head?_headline_ne_blank (node : Node) : node.headline.head? ≠ some ' ' := by
  rw [head?_headline]
  cases node <;> simp [initial]

/-- The line of a node tells the node, but for what is below it. -/
theorem Node.eq_of_headline_eq {a b : Node} (ha : a.WellFormed) (hb : b.WellFormed)
    (habuilt : a.Built) (hbbuilt : b.Built) (h : a.headline = b.headline)
    (hchildren : a.children = b.children) : a = b := by
  have hinitial : a.initial = b.initial := by
    rw [← Option.some_inj, ← head?_headline, ← head?_headline, h]
  cases a with
  | text content =>
      cases b with
      | text other =>
          rw [headline_text, headline_text] at h
          rw [(Quoted.text_append_inj (List.append_cancel_left h)).1]
      | _ => simp [initial] at hinitial
  | echo elements =>
      cases b with
      | echo others =>
          rw [headline_echo, headline_echo] at h
          rw [Element.intercalate_outlines_inj ha hb (List.append_cancel_left h)]
      | _ => simp [initial] at hinitial
  | loop header body =>
      cases b with
      | loop other others =>
          obtain rfl : body = others := hchildren
          rw [LoopHeader.outline_inj (Node.built_loop_iff.mp habuilt).1
            (Node.built_loop_iff.mp hbbuilt).1 ha.1 hb.1 h]
      | _ => simp [initial] at hinitial

/-! The lines of an outline. -/

/-- Of trees next to each other, those below the first one and those after it are to be shown. -/
@[elab_as_elim]
theorem Node.forest_induction {motive : List Node → Prop} (nil : motive [])
    (cons : ∀ node nodes, motive node.children → motive nodes → motive (node :: nodes)) :
    (nodes : List Node) → motive nodes
  | [] => nil
  | .text content :: nodes => cons (.text content) nodes nil (forest_induction nil cons nodes)
  | .echo elements :: nodes => cons (.echo elements) nodes nil (forest_induction nil cons nodes)
  | .loop header body :: nodes =>
      cons (.loop header body) nodes (forest_induction nil cons body)
        (forest_induction nil cons nodes)

mutual

/-- A node and the nodes below it with their depths, each before those below it. -/
def Node.preorder (depth : Nat) : Node → List (Nat × Node)
  | .text content => [(depth, .text content)]
  | .echo elements => [(depth, .echo elements)]
  | .loop header body => (depth, .loop header body) :: Node.preorderAll (depth + 1) body

def Node.preorderAll (depth : Nat) : List Node → List (Nat × Node)
  | [] => []
  | node :: nodes => node.preorder depth ++ Node.preorderAll depth nodes

end

theorem Node.preorderAll_cons (depth : Nat) (node : Node) (nodes : List Node) :
    Node.preorderAll depth (node :: nodes) = (depth, node) ::
      (Node.preorderAll (depth + 1) node.children ++ Node.preorderAll depth nodes) := by
  cases node <;> simp [preorderAll, preorder, children]

theorem Node.countAll_cons (node : Node) (nodes : List Node) :
    Node.countAll (node :: nodes) = 1 + Node.countAll node.children + Node.countAll nodes := by
  cases node <;> simp [countAll, count, children]

theorem Node.length_preorderAll (depth : Nat) (nodes : List Node) :
    (Node.preorderAll depth nodes).length = Node.countAll nodes := by
  induction nodes using forest_induction generalizing depth with
  | nil => rfl
  | cons node nodes hchildren hnodes =>
      rw [preorderAll_cons, countAll_cons, List.length_cons, List.length_append, hchildren, hnodes]
      omega

/-- Trees such as are parsed. -/
structure Node.AllSound (nodes : List Node) : Prop where
  wellFormed : AllWellFormed nodes
  built : ∀ node ∈ nodes, node.Built

theorem Node.AllSound.of_cons {node : Node} {nodes : List Node} (h : AllSound (node :: nodes)) :
    (node.WellFormed ∧ node.Built) ∧ AllSound node.children ∧ AllSound nodes := by
  obtain ⟨⟨hnode, -, hwell⟩, hbuilt⟩ := h
  rw [List.forall_mem_cons] at hbuilt
  obtain ⟨hwell', hbuilt'⟩ := Document.wellFormed_children hnode hbuilt.1
  exact ⟨⟨hnode, hbuilt.1⟩, ⟨hwell', hbuilt'⟩, hwell, hbuilt.2⟩

theorem Node.sound_of_mem_preorderAll {nodes : List Node} (h : AllSound nodes) (depth : Nat) :
    ∀ entry ∈ preorderAll depth nodes, entry.2.WellFormed ∧ entry.2.Built := by
  induction nodes using forest_induction generalizing depth with
  | nil => nofun
  | cons node nodes hchildren hnodes =>
      obtain ⟨hnode, hbelow, hafter⟩ := h.of_cons
      rw [preorderAll_cons, List.forall_mem_cons, List.forall_mem_append]
      exact ⟨hnode, hchildren hbelow _, hnodes hafter _⟩

/-- A depth with the line of a node there. -/
def Node.entryOf (entry : Nat × Node) : Nat × Text :=
  (entry.1, entry.2.headline)

/-- Where the entries of trees stop, an entry at a lower depth comes next, or none. -/
def Shallower (depth : Nat) (rest : List (Nat × Text)) : Prop :=
  ∀ entry ∈ rest.head?, entry.1 < depth

theorem Shallower.nil (depth : Nat) : Shallower depth [] := by
  rintro entry ⟨⟩

theorem Shallower.after {depth : Nat} {rest : List (Nat × Text)} (h : Shallower depth rest)
    (nodes : List Node) :
    Shallower (depth + 1) ((Node.preorderAll depth nodes).map Node.entryOf ++ rest) := by
  cases nodes with
  | nil => exact fun entry hentry => Nat.lt_succ_of_lt (h entry hentry)
  | cons node nodes =>
      rw [Node.preorderAll_cons]
      rintro entry ⟨⟩
      exact Nat.lt_succ_self depth

/-- Trees are told by the depths and the lines of their nodes in pre-order. -/
theorem Node.entries_inj {nodes others : List Node} (hnodes : AllSound nodes)
    (hothers : AllSound others) {depth : Nat} {rest rest' : List (Nat × Text)}
    (hrest : Shallower depth rest) (hrest' : Shallower depth rest')
    (h : (preorderAll depth nodes).map entryOf ++ rest =
      (preorderAll depth others).map entryOf ++ rest') : nodes = others ∧ rest = rest' := by
  induction nodes using forest_induction generalizing others depth rest rest' with
  | nil =>
      cases others with
      | nil => exact ⟨rfl, h⟩
      | cons other others =>
          rw [preorderAll_cons] at h
          obtain rfl := h
          exact absurd (hrest _ rfl) (Nat.lt_irrefl depth)
  | cons node nodes hchildren hlater =>
      rw [preorderAll_cons] at h
      cases others with
      | nil =>
          obtain rfl := h
          exact absurd (hrest' _ rfl) (Nat.lt_irrefl depth)
      | cons other others =>
          obtain ⟨hnode, hbelow, hafter⟩ := hnodes.of_cons
          obtain ⟨hother, hbelow', hafter'⟩ := hothers.of_cons
          rw [preorderAll_cons] at h
          simp only [List.map_cons, List.map_append, List.cons_append, List.append_assoc,
            List.cons.injEq] at h
          obtain ⟨hentry, htail⟩ := h
          obtain ⟨hsame, htail⟩ := hchildren hbelow hbelow' (hrest.after nodes)
            (hrest'.after others) htail
          obtain ⟨rfl, hrests⟩ := hlater hafter hafter' hrest hrest' htail
          rw [eq_of_headline_eq hnode.1 hother.1 hnode.2 hother.2 (congrArg Prod.snd hentry) hsame]
          exact ⟨rfl, hrests⟩

/-! The text of an outline. -/

def indented (entry : Nat × Text) : Text :=
  List.replicate (2 * entry.1) ' ' ++ entry.2

/-- The depth that a line is indented by, and the rest of the line. -/
def unindented (line : Text) : Nat × Text :=
  ((line.takeWhile (· = ' ')).length / 2, line.dropWhile (· = ' '))

theorem unindented_indented {entry : Nat × Text} (h : entry.2.head? ≠ some ' ') :
    unindented (indented entry) = entry := by
  obtain ⟨depth, line⟩ := entry
  have hblank : ∀ c ∈ List.replicate (2 * depth) ' ', decide (c = ' ') = true := by
    simp +contextual
  have hstop : line.head?.any (· = ' ') = false := by
    cases line with
    | nil => rfl
    | cons c line => simpa using h
  obtain ⟨htake, hdrop⟩ := Text.takeWhile_append_of_stop hblank hstop
  simp [unindented, indented, htake, hdrop]

theorem Node.outlineAll_eq (depth : Nat) (nodes : List Node) :
    outlineAll depth nodes =
      (preorderAll depth nodes).flatMap fun entry => indented (entryOf entry) ++ ['\n'] := by
  induction nodes using forest_induction generalizing depth with
  | nil => rfl
  | cons node nodes hchildren hnodes =>
      rw [outlineAll_cons, outline_eq, preorderAll_cons, hchildren, hnodes]
      simp [outlineLine, indented, entryOf]

/-- The lines of an outline: the first one for the document, and then one for each node. -/
def Document.outlineLines (d : Document) : List Text :=
  ['d', 'o', 'c', 'u', 'm', 'e', 'n', 't'] ::
    (Node.preorderAll 1 d.children).map fun entry => indented (Node.entryOf entry)

/-! No line ends within a line. -/

theorem newline_not_mem_of_isValidName {name : Text} (h : isValidName name = true) :
    '\n' ∉ name := by
  have hline : isNameRest '\n' = false := not_isNameRest_of_isWhiteSpace (by decide)
  have hrest : ∀ c ∈ name, isNameRest c = true := by
    cases name with
    | nil => simp
    | cons c run =>
        obtain ⟨hstart, hrun⟩ := (Bool.and_eq_true _ _).mp h
        rw [List.forall_mem_cons]
        exact ⟨isNameRest_of_isNameStart hstart, List.all_eq_true.mp hrun⟩
  exact fun hmem => absurd (hrest _ hmem) (by simp [hline])

theorem Number.newline_not_mem_render {n : Number} (h : n.IsFinite) : '\n' ∉ n.render := by
  obtain ⟨sign, c, run, hsign, hrender, hdigit, hrun, -⟩ :=
    isNumeral_of_parse? (parse?_render h) (.blank [])
  have hline : isNumberRest '\n' = false := by decide
  rw [hrender]
  simp only [List.mem_append, List.mem_cons, not_or]
  refine ⟨?_, ?_, ?_⟩
  · obtain rfl | rfl := hsign <;> decide
  · rintro rfl
    contradiction
  · exact fun hmem => absurd (hrun _ hmem) (by simp [hline])

theorem newline_not_mem_quoteLiteral (content : Text) : '\n' ∉ quoteLiteral content := by
  have hforms : ∀ c ∈ content, '\n' ∉ escapeLiteralChar c := by
    intro c _
    unfold escapeLiteralChar
    split
    case h_6 hline => simpa using Ne.symm hline
    all_goals decide
  simpa [quoteLiteral] using hforms

theorem Element.newline_not_mem_render {e : Element} (h : e.WellFormed) : '\n' ∉ e.render := by
  cases e with
  | number n => exact Number.newline_not_mem_render h
  | string content => exact newline_not_mem_quoteLiteral content
  | «variable» name => exact newline_not_mem_of_isValidName h
  | function name => simpa [render] using newline_not_mem_of_isValidName h
  | operator symbol =>
      have hsymbols : ∀ symbol ∈ [['+'], ['-'], ['*'], ['/'], ['^']], '\n' ∉ symbol := by decide
      exact hsymbols symbol h

theorem Element.newline_not_mem_outline {e : Element} (h : e.WellFormed) : '\n' ∉ e.outline := by
  have hname : '\n' ∉ e.kind.name := by
    cases e.kind <;> decide
  have hrender := newline_not_mem_render h
  simp [outline, hname, hrender]

theorem Node.newline_not_mem_headline {node : Node} (hwell : node.WellFormed)
    (hbuilt : node.Built) : '\n' ∉ node.headline := by
  cases node with
  | text content =>
      rw [headline_text]
      simpa using Quoted.not_mem_newline_text content
  | echo elements =>
      rw [headline_echo]
      have houtlines : ∀ e ∈ elements, '\n' ∉ e.outline :=
        fun e he => Element.newline_not_mem_outline (hwell e he)
      cases elements with
      | nil => decide
      | cons a as =>
          rw [List.forall_mem_cons] at houtlines
          rw [Element.intercalate_outlines]
          simpa using houtlines
  | loop header body =>
      obtain ⟨hname, -⟩ := built_loop_iff.mp hbuilt
      have hbounds : ∀ bound ∈ header.bounds, '\n' ∉ bound.render :=
        fun bound hbound => Number.newline_not_mem_render (hwell.1 bound hbound)
      obtain ⟨name, start, stop, step⟩ := header
      rw [headline_loop, LoopHeader.outline_eq]
      have hname' := newline_not_mem_of_isValidName hname
      cases step <;> simp_all [LoopHeader.bounds, stepOutline]

namespace Document

theorem newline_not_mem_outlineLines {d : Document} (hwell : d.WellFormed) (hbuilt : d.Built) :
    ∀ line ∈ d.outlineLines, '\n' ∉ line := by
  rw [outlineLines, List.forall_mem_cons, List.forall_mem_map]
  refine ⟨by decide, fun entry hentry => ?_⟩
  obtain ⟨hnode, hnode'⟩ := Node.sound_of_mem_preorderAll ⟨hwell, hbuilt⟩ 1 entry hentry
  have hheadline := Node.newline_not_mem_headline hnode hnode'
  simpa [indented, Node.entryOf] using hheadline

theorem outline_eq_lines (d : Document) :
    d.outline = d.outlineLines.flatMap (· ++ ['\n']) := by
  change outlineLine 0 "document".toList ++ Node.outlineAll 1 d.children = _
  rw [Node.outlineAll_eq, outlineLines, List.flatMap_cons, List.flatMap_map]
  simp [outlineLine]

theorem eq_of_outline_eq {d e : Document} (hwell : d.WellFormed) (hbuilt : d.Built)
    (hwell' : e.WellFormed) (hbuilt' : e.Built) (h : d.outline = e.outline) : d = e := by
  rw [outline_eq_lines, outline_eq_lines] at h
  have hlines := Text.lines_inj (newline_not_mem_outlineLines hwell hbuilt)
    (newline_not_mem_outlineLines hwell' hbuilt') h
  obtain ⟨-, hlines⟩ := List.cons_eq_cons.mp hlines
  have hread (nodes : List Node) :
      ((Node.preorderAll 1 nodes).map fun entry => indented (Node.entryOf entry)).map unindented =
        (Node.preorderAll 1 nodes).map Node.entryOf := by
    rw [List.map_map]
    exact List.map_congr_left fun entry _ => unindented_indented entry.2.head?_headline_ne_blank
  have hentries := congrArg (List.map unindented) hlines
  rw [hread, hread, ← List.append_nil (List.map _ (Node.preorderAll 1 d.children)),
    ← List.append_nil (List.map _ (Node.preorderAll 1 e.children))] at hentries
  obtain ⟨hchildren, -⟩ :=
    Node.entries_inj ⟨hwell, hbuilt⟩ ⟨hwell', hbuilt'⟩ (.nil 1) (.nil 1) hentries
  cases d
  cases e
  exact congrArg mk hchildren

/-- The outline of a parsed document has a line for each of its nodes, and no other document that is
parsed has that outline. -/
theorem outline_of_parse {options : ParseOptions} {source : Text} {d : Document}
    (h : parse options source = .ok d) :
    d.outline = d.outlineLines.flatMap (· ++ ['\n']) ∧ (∀ line ∈ d.outlineLines, '\n' ∉ line) ∧
    d.outlineLines.length = d.nodeCount + 1 ∧
    ∀ options' source' e, parse options' source' = .ok e → d.outline = e.outline →
      (d == e) = true := by
  obtain ⟨hwell, hbuilt⟩ := wellFormed_of_parse h
  refine ⟨outline_eq_lines d, newline_not_mem_outlineLines hwell hbuilt, ?_, ?_⟩
  · simp [outlineLines, Node.length_preorderAll, nodeCount]
  · intro options' source' e he houtline
    obtain ⟨hwell', hbuilt'⟩ := wellFormed_of_parse he
    rw [eq_of_outline_eq hwell hbuilt hwell' hbuilt' houtline]
    exact beq_self_eq_true e

/-- A text that is a line end, and a string that looks like the end of its element. -/
theorem outline_of_parse_line_end :
    parse ⟨true⟩ ['\n', '{', '$', 'F', 'O', 'R', ' ', 'i', ' ', '1', ' ', '-', '0', '.', '$', '}',
        '{', '$', '=', '"', ')', ',', ' ', '"', 'x', '$', '}'] =
      .ok ⟨[.text ['\n'], .loop ⟨['i'], .integer 1, .double ⟨true, 0⟩, none⟩
        [.echo [.string [')', ',', ' '], .variable ['x']]]]⟩ ∧
    outline ⟨[.text ['\n'], .loop ⟨['i'], .integer 1, .double ⟨true, 0⟩, none⟩
        [.echo [.string [')', ',', ' '], .variable ['x']]]]⟩ =
      ["document".toList, "  text \"\\n\"".toList, "  for i from 1 to -0.0".toList,
        "    echo [string(\"), \"), variable(x)]".toList].flatMap (· ++ ['\n']) := by
  have hparse : parse ⟨true⟩ ['\n', '{', '$', 'F', 'O', 'R', ' ', 'i', ' ', '1', ' ', '-', '0', '.',
        '$', '}', '{', '$', '=', '"', ')', ',', ' ', '"', 'x', '$', '}'] =
      .ok ⟨[.text ['\n'], .loop ⟨['i'], .integer 1, .double ⟨true, 0⟩, none⟩
        [.echo [.string [')', ',', ' '], .variable ['x']]]]⟩ := by
    cbv
  have hlines : outlineLines ⟨[.text ['\n'], .loop ⟨['i'], .integer 1, .double ⟨true, 0⟩, none⟩
        [.echo [.string [')', ',', ' '], .variable ['x']]]]⟩ =
      ["document".toList, "  text \"\\n\"".toList, "  for i from 1 to -0.0".toList,
        "    echo [string(\"), \"), variable(x)]".toList] := by
    decide +kernel
  obtain ⟨houtline, -⟩ := outline_of_parse hparse
  rw [hlines] at houtline
  exact ⟨hparse, houtline⟩

end Document

end TagMarkup
