import TagMarkup.Element

namespace TagMarkup

/-- The variable of a loop and the numbers between which it runs. -/
structure LoopHeader where
  name : Text
  start : Number
  stop : Number
  step : Option Number

inductive Node where
  /-- Literal text, with escapes resolved. -/
  | text (content : Text)
  | echo (elements : List Element)
  | loop (header : LoopHeader) (body : List Node)

structure Document where
  children : List Node

namespace LoopHeader

def bounds (h : LoopHeader) : List Number :=
  h.start :: h.stop :: h.step.toList

/-- A header from parts of any kind. There is none unless the variable is a name and all bounds are
numbers. -/
def ofElements? (name : Text) (start stop : Element) (step : Option Element) :
    Option LoopHeader := do
  guard (isValidName name)
  let start ← start.number?
  let stop ← stop.number?
  match step with
  | none => return ⟨name, start, stop, none⟩
  | some step => return ⟨name, start, stop, some (← step.number?)⟩

def render (h : LoopHeader) : Text :=
  ['{', '$', 'F', 'O', 'R', ' '] ++ h.name ++ h.bounds.flatMap (fun n => ' ' :: n.render) ++
    ['$', '}']

def same (a b : LoopHeader) : Bool :=
  a.name == b.name && Element.number a.start == Element.number b.start &&
    Element.number a.stop == Element.number b.stop &&
    a.step.map Element.number == b.step.map Element.number

instance : BEq LoopHeader := ⟨same⟩

end LoopHeader

def escapeText (t : Text) : Text :=
  t.flatMap fun c => if c = '\\' ∨ c = '{' then ['\\', c] else [c]

def renderEcho (elements : List Element) : Text :=
  ['{', '$', '='] ++ elements.flatMap (fun e => ' ' :: e.render) ++ ['$', '}']

def renderEnd : Text :=
  ['{', '$', 'E', 'N', 'D', '$', '}']

mutual

/-- Canonical text, in front of a text that comes after it. -/
def Node.renderBefore (rest : Text) : Node → Text
  | .text content => escapeText content ++ rest
  | .echo elements => renderEcho elements ++ rest
  | .loop header body => header.render ++ Node.renderAllBefore (renderEnd ++ rest) body

def Node.renderAllBefore (rest : Text) : List Node → Text
  | [] => rest
  | node :: nodes => node.renderBefore (Node.renderAllBefore rest nodes)

end

/-- Canonical text. -/
def Node.render (node : Node) : Text :=
  node.renderBefore []

def Node.renderAll (nodes : List Node) : Text :=
  Node.renderAllBefore [] nodes

mutual

theorem Node.renderBefore_append (front rest : Text) :
    (node : Node) → node.renderBefore (front ++ rest) = node.renderBefore front ++ rest
  | .text content => by simp [Node.renderBefore]
  | .echo elements => by simp [Node.renderBefore]
  | .loop header body => by
      simp only [Node.renderBefore, ← List.append_assoc]
      rw [Node.renderAllBefore_append, List.append_assoc]

theorem Node.renderAllBefore_append (front rest : Text) :
    (nodes : List Node) →
      Node.renderAllBefore (front ++ rest) nodes = Node.renderAllBefore front nodes ++ rest
  | [] => rfl
  | node :: nodes => by
      simp only [Node.renderAllBefore]
      rw [Node.renderAllBefore_append, Node.renderBefore_append]

end

theorem Node.renderBefore_eq (node : Node) (rest : Text) :
    node.renderBefore rest = node.render ++ rest :=
  node.renderBefore_append [] rest

theorem Node.renderAllBefore_eq (nodes : List Node) (rest : Text) :
    Node.renderAllBefore rest nodes = Node.renderAll nodes ++ rest :=
  Node.renderAllBefore_append [] rest nodes

@[simp] theorem Node.render_text (content : Text) :
    (Node.text content).render = escapeText content := by
  simp [Node.render, Node.renderBefore]

@[simp] theorem Node.render_echo (elements : List Element) :
    (Node.echo elements).render = renderEcho elements := by
  simp [Node.render, Node.renderBefore]

@[simp] theorem Node.render_loop (header : LoopHeader) (body : List Node) :
    (Node.loop header body).render = header.render ++ (Node.renderAll body ++ renderEnd) := by
  simp [Node.render, Node.renderBefore, Node.renderAllBefore_eq]

@[simp] theorem Node.renderAll_nil : Node.renderAll [] = [] := rfl

@[simp] theorem Node.renderAll_cons (node : Node) (nodes : List Node) :
    Node.renderAll (node :: nodes) = node.render ++ Node.renderAll nodes := by
  simp [Node.renderAll, Node.renderAllBefore, Node.renderBefore_eq]

mutual

def Node.count : Node → Nat
  | .text _ => 1
  | .echo _ => 1
  | .loop _ body => 1 + Node.countAll body

def Node.countAll : List Node → Nat
  | [] => 0
  | node :: nodes => node.count + Node.countAll nodes

end

mutual

def Node.same : Node → Node → Bool
  | .text a, .text b => a == b
  | .echo a, .echo b => a == b
  | .loop a as, .loop b bs => a == b && Node.sameAll as bs
  | _, _ => false

def Node.sameAll : List Node → List Node → Bool
  | [], [] => true
  | a :: as, b :: bs => a.same b && Node.sameAll as bs
  | _, _ => false

end

instance : BEq Node := ⟨Node.same⟩

namespace Node

def children : Node → List Node
  | text _ => []
  | echo _ => []
  | loop _ body => body

def child? (node : Node) (index : Nat) : Option Node :=
  node.children[index]?

/-- The node that a path of child numbers leads to. -/
def descend? : List Nat → Node → Option Node
  | [], node => some node
  | index :: path, node => (node.child? index).bind (descend? path)

end Node

namespace Document

def child? (d : Document) (index : Nat) : Option Node :=
  d.children[index]?

/-- The node that a path of child numbers leads to. The empty path leads to no node, since the
document itself is none. -/
def descend? (d : Document) : List Nat → Option Node
  | [] => none
  | index :: path => (d.child? index).bind (Node.descend? path)

/-- Canonical text. -/
def render (d : Document) : Text :=
  Node.renderAll d.children

/-- The number of nodes below the root. -/
def nodeCount (d : Document) : Nat :=
  Node.countAll d.children

def same (a b : Document) : Bool :=
  a.children == b.children

instance : BEq Document := ⟨same⟩

end Document

end TagMarkup
