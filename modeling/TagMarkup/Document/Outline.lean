import TagMarkup.Document
import TagMarkup.Quoted

namespace TagMarkup

def Element.outline (e : Element) : Text :=
  e.kind.name ++ "(" ++ e.render ++ ")"

def LoopHeader.outline (h : LoopHeader) : Text :=
  "for " ++ h.name ++ " from " ++ h.start.render ++ " to " ++ h.stop.render ++
    (match h.step with
      | some step => " step " ++ step.render
      | none => [])

/-- The line of a node, without its indentation. -/
def Node.headline : Node → Text
  | .text content => "text " ++ Quoted.text content
  | .echo elements => "echo [" ++ [',', ' '].intercalate (elements.map Element.outline) ++ "]"
  | .loop header _ => header.outline

def outlineLine (depth : Nat) (t : Text) : Text :=
  List.replicate (2 * depth) ' ' ++ t ++ ['\n']

mutual

/-- The lines of a node and of the nodes below it, in front of a text that comes after them. -/
def Node.outlineBefore (depth : Nat) (rest : Text) : Node → Text
  | .text content => outlineLine depth (Node.text content).headline ++ rest
  | .echo elements => outlineLine depth (Node.echo elements).headline ++ rest
  | .loop header body =>
      outlineLine depth (Node.loop header body).headline ++
        Node.outlineAllBefore (depth + 1) rest body

def Node.outlineAllBefore (depth : Nat) (rest : Text) : List Node → Text
  | [] => rest
  | node :: nodes => node.outlineBefore depth (Node.outlineAllBefore depth rest nodes)

end

def Node.outline (depth : Nat) (node : Node) : Text :=
  node.outlineBefore depth []

def Node.outlineAll (depth : Nat) (nodes : List Node) : Text :=
  Node.outlineAllBefore depth [] nodes

mutual

theorem Node.outlineBefore_append (depth : Nat) (front rest : Text) :
    (node : Node) →
      node.outlineBefore depth (front ++ rest) = node.outlineBefore depth front ++ rest
  | .text content => by simp [Node.outlineBefore]
  | .echo elements => by simp [Node.outlineBefore]
  | .loop header body => by
      simp only [Node.outlineBefore]
      rw [Node.outlineAllBefore_append, List.append_assoc]

theorem Node.outlineAllBefore_append (depth : Nat) (front rest : Text) :
    (nodes : List Node) →
      Node.outlineAllBefore depth (front ++ rest) nodes =
        Node.outlineAllBefore depth front nodes ++ rest
  | [] => rfl
  | node :: nodes => by
      simp only [Node.outlineAllBefore]
      rw [Node.outlineAllBefore_append, Node.outlineBefore_append]

end

theorem Node.outlineBefore_eq (depth : Nat) (node : Node) (rest : Text) :
    node.outlineBefore depth rest = node.outline depth ++ rest :=
  node.outlineBefore_append depth [] rest

/-- A node comes before the nodes below it, which are indented once more. -/
theorem Node.outline_eq (depth : Nat) (node : Node) :
    node.outline depth =
      outlineLine depth node.headline ++ Node.outlineAll (depth + 1) node.children := by
  cases node <;> simp [Node.outline, Node.outlineBefore, Node.outlineAll, Node.children,
    Node.outlineAllBefore]

@[simp] theorem Node.outlineAll_nil (depth : Nat) : Node.outlineAll depth [] = [] := rfl

@[simp] theorem Node.outlineAll_cons (depth : Nat) (node : Node) (nodes : List Node) :
    Node.outlineAll depth (node :: nodes) = node.outline depth ++ Node.outlineAll depth nodes := by
  simp [Node.outlineAll, Node.outlineAllBefore, Node.outlineBefore_eq]

def Document.outline (d : Document) : Text :=
  outlineLine 0 "document" ++ Node.outlineAll 1 d.children

end TagMarkup
