import TagMarkup.Document.Tag
import TagMarkup.Error

namespace TagMarkup

structure ParseOptions where
  /-- Close the loops that are open at the end of the input. -/
  allowUnclosed : Bool := false

inductive Event where
  | token (kind : TokenKind) (offset : Nat)
  | openLoop (name : Text) (depth : Nat)
  | closeLoop (name : Text) (depth : Nat)
  | closeImplicitly (name : Text)
  | parsed (nodes : Nat)
deriving DecidableEq

/-- A loop whose end has not been seen, with the offset of the tag that opened it. The latest node
of its body comes first. -/
structure OpenLoop where
  header : LoopHeader
  opened : Nat
  body : List Node

def OpenLoop.close (l : OpenLoop) : Node :=
  .loop l.header l.body.reverse

/-- The part of a tag that is expected next. `opened` is the offset of the tag; of the elements read
the latest comes first. -/
inductive Place where
  | betweenTags
  | tagName (opened : Nat)
  | echo (elements : List Element)
  | loopName (opened : Nat)
  | loopBounds (opened : Nat) (name : Text) (bounds : List Number)
  | endClose (opened : Nat)

/-- What has been read: the children of the document so far with the latest first, the open loops
with the innermost first, and the place within the current tag. -/
structure Assembly where
  root : List Node
  loops : List OpenLoop
  place : Place

namespace Assembly

def empty : Assembly :=
  ⟨[], [], .betweenTags⟩

def goTo (a : Assembly) (place : Place) : Assembly :=
  { a with place := place }

/-- Adds a node to the innermost open loop, or to the document if no loop is open. -/
def push (a : Assembly) (node : Node) : Assembly :=
  match a.loops with
  | [] => { a with root := node :: a.root }
  | l :: loops => { a with loops := { l with body := node :: l.body } :: loops }

/-- The children of the document once all open loops are closed, innermost first. `pending` are the
nodes that still go into the innermost loop, the latest first. -/
def closeAll (root : List Node) (pending : List Node) : List OpenLoop → List Node
  | [] => (pending ++ root).reverse
  | l :: loops => closeAll root [{ l with body := pending ++ l.body }.close] loops

/-- How an assembly goes on after a token: with events and a new state, or to an end. -/
inductive Progress where
  | go (events : List Event) (next : Assembly)
  | done (events : List Event) (result : Except ParseError Document)

namespace Progress

def fail (error : ParseError) : Progress :=
  .done [] (.error error)

def goOn (next : Assembly) : Progress :=
  .go [] next

end Progress

/-- The end of the input. Open loops are an error unless they may be closed implicitly. -/
def finish (options : ParseOptions) (a : Assembly) : Progress :=
  match a.loops, options.allowUnclosed with
  | l :: _, false => .fail (.unterminatedLoop l.header.name l.opened)
  | loops, _ =>
      let document : Document := ⟨closeAll a.root [] loops⟩
      .done (loops.map (fun l => .closeImplicitly l.header.name) ++ [.parsed document.nodeCount])
        (.ok document)

/-- The end of a loop header. -/
def openLoop (a : Assembly) (opened : Nat) (name : Text) : List Number → Progress
  | start :: stop :: rest =>
      .go [.openLoop name (a.loops.length + 1)]
        { a with
          loops := ⟨⟨name, start, stop, rest.head?⟩, opened, []⟩ :: a.loops
          place := .betweenTags }
  | _ => .fail (.tooFewBounds opened)

/-- The end of a tag that ends a loop. -/
def closeLoop (a : Assembly) (opened : Nat) : Progress :=
  match a.loops with
  | [] => .fail (.unmatchedEnd opened)
  | l :: loops =>
      .go [.closeLoop l.header.name loops.length]
        (({ a with loops := loops, place := .betweenTags } : Assembly).push l.close)

/-- A token where no tag is open. -/
def takeBetweenTags (options : ParseOptions) (a : Assembly) (t : Token) : Progress :=
  match t.kind, t.value with
  | .endOfInput, _ => a.finish options
  | .text, some (.text content) => .goOn (a.push (.text content))
  | .tagOpen, _ => .goOn (a.goTo (.tagName t.offset))
  | _, _ => .fail (.unexpectedToken t.describe t.offset)

def takeTagName (a : Assembly) (opened : Nat) (t : Token) : Progress :=
  if t.kind = .tagClose then .fail (.emptyTag opened)
  else
    match t.tagName? with
    | some .echo => .goOn (a.goTo (.echo []))
    | some .loop => .goOn (a.goTo (.loopName opened))
    | some .endLoop => .goOn (a.goTo (.endClose opened))
    | none => .fail (.unknownTag t.describe t.offset)

/-- A token of an echo tag, after the elements read before. -/
def takeElement (a : Assembly) (elements : List Element) (t : Token) : Progress :=
  if t.kind = .tagClose then .goOn ((a.goTo .betweenTags).push (.echo elements.reverse))
  else
    match t.element? with
    | some element => .goOn (a.goTo (.echo (element :: elements)))
    | none => .fail (.invalidElement t.describe t.offset)

def takeLoopName (a : Assembly) (opened : Nat) (t : Token) : Progress :=
  match t.variableName? with
  | some name => .goOn (a.goTo (.loopBounds opened name []))
  | none => .fail (.missingLoopName t.describe t.offset)

/-- A token of a loop header, after the numbers read before, of which there are three at most. -/
def takeBound (a : Assembly) (opened : Nat) (name : Text) (bounds : List Number) (t : Token) :
    Progress :=
  if t.kind = .tagClose then a.openLoop opened name bounds
  else if bounds.length = 3 then .fail (.unclosedLoopTag t.describe t.offset)
  else
    match t.bound? with
    | some bound => .goOn (a.goTo (.loopBounds opened name (bounds ++ [bound])))
    | none => .fail (.invalidBound t.describe t.offset)

def takeEndClose (a : Assembly) (opened : Nat) (t : Token) : Progress :=
  if t.kind = .tagClose then a.closeLoop opened
  else .fail (.unclosedEndTag t.describe t.offset)

def step (options : ParseOptions) (a : Assembly) (t : Token) : Progress :=
  match a.place with
  | .betweenTags => a.takeBetweenTags options t
  | .tagName opened => a.takeTagName opened t
  | .echo elements => a.takeElement elements t
  | .loopName opened => a.takeLoopName opened t
  | .loopBounds opened name bounds => a.takeBound opened name bounds t
  | .endClose opened => a.takeEndClose opened t

end Assembly

end TagMarkup
