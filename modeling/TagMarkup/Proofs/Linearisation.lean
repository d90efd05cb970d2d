import Mathlib.Data.List.Forall2
import TagMarkup.Proofs.TagNames

namespace TagMarkup

namespace Token

/-- The token that stands for an element in an echo tag. -/
inductive Denotes : Token → Element → Prop
  | integer (value : Int64) (offset : Nat) :
      Denotes ⟨.integer, some (.integer value), offset⟩ (.number (.integer value))
  | double (value : Binary64) (offset : Nat) :
      Denotes ⟨.double, some (.double value), offset⟩ (.number (.double value))
  | string (content : Text) (offset : Nat) :
      Denotes ⟨.string, some (.text content), offset⟩ (.string content)
  | function (name : Text) (offset : Nat) :
      Denotes ⟨.function, some (.text name), offset⟩ (.function name)
  | operator (symbol : Char) (offset : Nat) :
      Denotes ⟨.operator, some (.char symbol), offset⟩ (.operator [symbol])
  | name {name : Text} (hname : isValidName name = true) (offset : Nat) :
      Denotes ⟨.name, some (.text name), offset⟩ (.variable name)

/-- The token that stands for a bound of a loop. -/
inductive Bounds : Token → Number → Prop
  | integer (value : Int64) (offset : Nat) :
      Bounds ⟨.integer, some (.integer value), offset⟩ (.integer value)
  | double (value : Binary64) (offset : Nat) :
      Bounds ⟨.double, some (.double value), offset⟩ (.double value)
  | string {content : Text} {bound : Number} (hbound : Number.parse? content = some bound)
      (offset : Nat) : Bounds ⟨.string, some (.text content), offset⟩ bound

inductive IsName : Token → Text → Prop
  | intro (name : Text) (offset : Nat) : IsName ⟨.name, some (.text name), offset⟩ name

/-- A name token whose name is `upper` in upper case. -/
def IsTagName (t : Token) (upper : Text) : Prop :=
  ∃ name, t.IsName name ∧ name.flatMap Unicode.uppercase = upper

/-- A token that can stand between the marks of a tag. -/
structure IsInner (t : Token) : Prop where
  ne_tagOpen : t.kind ≠ .tagOpen
  ne_tagClose : t.kind ≠ .tagClose
  ne_endOfInput : t.kind ≠ .endOfInput

theorem IsName.isInner {t : Token} {name : Text} (h : t.IsName name) : t.IsInner := by
  cases h
  constructor <;> simp

theorem IsTagName.isInner {t : Token} {upper : Text} (h : t.IsTagName upper) : t.IsInner := by
  obtain ⟨name, hname, -⟩ := h
  exact hname.isInner

theorem Denotes.isInner {t : Token} {element : Element} (h : t.Denotes element) : t.IsInner := by
  cases h <;> constructor <;> simp

theorem Bounds.isInner {t : Token} {bound : Number} (h : t.Bounds bound) : t.IsInner := by
  cases h <;> constructor <;> simp

/-- Tokens that stand for values can stand between the marks of a tag. -/
theorem isInner_of_forall₂ {α : Type} {relates : Token → α → Prop} {tokens : List Token}
    {values : List α} (h : List.Forall₂ relates tokens values)
    (hinner : ∀ t value, relates t value → t.IsInner) : ∀ t ∈ tokens, t.IsInner :=
  ((List.forall₂_and_left _ _).mp (h.imp fun t value hvalue => ⟨hinner t value hvalue, hvalue⟩)).1

end Token

/-- The name of a kind of tags in upper case. -/
def TagName.upper : TagName → Text
  | echo => ['=']
  | loop => ['F', 'O', 'R']
  | endLoop => ['E', 'N', 'D']

inductive LoopHeader.Opens : LoopHeader → List Token → Prop
  | intro {header : LoopHeader} {mark tag subject close : Token} {bounds : List Token}
      (hmark : mark.kind = .tagOpen) (htag : tag.IsTagName ['F', 'O', 'R'])
      (hsubject : subject.IsName header.name) (hname : isValidName header.name = true)
      (hbounds : List.Forall₂ Token.Bounds bounds header.bounds)
      (hclose : close.kind = .tagClose) :
      header.Opens (mark :: tag :: subject :: (bounds ++ [close]))

inductive EndsLoop : List Token → Prop
  | intro {mark tag close : Token} (hmark : mark.kind = .tagOpen)
      (htag : tag.IsTagName ['E', 'N', 'D']) (hclose : close.kind = .tagClose) :
      EndsLoop [mark, tag, close]

mutual

inductive Node.Linearises : Node → List Token → Prop
  | text (content : Text) (offset : Nat) :
      Node.Linearises (.text content) [⟨.text, some (.text content), offset⟩]
  | echo {elements : List Element} {mark tag close : Token} {tokens : List Token}
      (hmark : mark.kind = .tagOpen) (htag : tag.IsName ['='])
      (helements : List.Forall₂ Token.Denotes tokens elements) (hclose : close.kind = .tagClose) :
      Node.Linearises (.echo elements) (mark :: tag :: (tokens ++ [close]))
  | loop {header : LoopHeader} {body : List Node} {opening inner ending : List Token}
      (hopening : header.Opens opening) (hinner : Node.LinearisesAll body inner)
      (hending : EndsLoop ending) :
      Node.Linearises (.loop header body) (opening ++ inner ++ ending)

inductive Node.LinearisesAll : List Node → List Token → Prop
  | nil : Node.LinearisesAll [] []
  | cons {node : Node} {nodes : List Node} {tokens rest : List Token}
      (hnode : node.Linearises tokens) (hnodes : Node.LinearisesAll nodes rest) :
      Node.LinearisesAll (node :: nodes) (tokens ++ rest)

end

namespace Node.LinearisesAll

theorem append {front back : List Node} {tokens rest : List Token}
    (hfront : LinearisesAll front tokens) (hback : LinearisesAll back rest) :
    LinearisesAll (front ++ back) (tokens ++ rest) := by
  induction front generalizing tokens with
  | nil =>
      cases hfront
      exact hback
  | cons node nodes ih =>
      cases hfront with
      | cons hnode hnodes =>
          rw [List.append_assoc]
          exact .cons hnode (ih hnodes)

theorem singleton {node : Node} {tokens : List Token} (h : node.Linearises tokens) :
    LinearisesAll [node] tokens := by
  simpa using cons h nil

theorem snoc {node : Node} {latest : List Node} {tokens rest : List Token}
    (hlatest : LinearisesAll latest.reverse tokens) (hnode : node.Linearises rest) :
    LinearisesAll (node :: latest).reverse (tokens ++ rest) := by
  rw [List.reverse_cons]
  exact hlatest.append (singleton hnode)

end Node.LinearisesAll

/-! What the recognisers of the parser accept. -/

theorem TagName.ofText?_eq_some_iff {t : Text} {n : TagName} :
    ofText? t = some n ↔ t.flatMap Unicode.uppercase = n.upper := by
  unfold ofText?
  constructor
  · intro h
    dsimp only at h
    split at h
    · cases h
      assumption
    split at h
    · cases h
      assumption
    split at h
    · cases h
      assumption
    · contradiction
  · intro h
    cases n <;> simp [h, upper]

namespace Token

theorem name?_eq_some_iff {t : Token} {name : Text} : t.name? = some name ↔ t.IsName name := by
  constructor
  · intro h
    obtain ⟨kind, value, offset⟩ := t
    unfold name? at h
    split at h
    · rename_i text hkind hvalue
      dsimp only at hkind hvalue
      subst hkind hvalue
      obtain rfl := Option.some.inj h
      exact .intro _ _
    · contradiction
  · rintro ⟨⟩
    rfl

theorem variableName?_eq_some_iff {t : Token} {name : Text} :
    t.variableName? = some name ↔ t.IsName name ∧ isValidName name = true := by
  rw [variableName?, Option.filter_eq_some_iff, name?_eq_some_iff]

theorem tagName?_eq_some_iff {t : Token} {n : TagName} :
    t.tagName? = some n ↔ t.IsTagName n.upper := by
  simp only [tagName?, Option.bind_eq_some_iff, name?_eq_some_iff, TagName.ofText?_eq_some_iff,
    IsTagName]

theorem isTagName_equals_iff {t : Token} : t.IsTagName ['='] ↔ t.IsName ['='] := by
  constructor
  · rintro ⟨name, hname, hupper⟩
    obtain rfl := Unicode.flatMap_uppercase_eq_equals_iff.mp hupper
    exact hname
  · intro h
    exact ⟨_, h, Unicode.flatMap_uppercase_eq_equals_iff.mpr rfl⟩

theorem element?_eq_some_iff {t : Token} {element : Element} :
    t.element? = some element ↔ t.Denotes element := by
  constructor
  · intro h
    obtain ⟨kind, value, offset⟩ := t
    unfold element? at h
    split at h
    case h_6 hkind =>
      obtain ⟨name, hname, rfl⟩ := Option.map_eq_some_iff.mp h
      obtain ⟨⟨⟩, hvalid⟩ := variableName?_eq_some_iff.mp hname
      exact .name hvalid _
    case h_7 => contradiction
    all_goals
      rename_i hkind hvalue
      dsimp only at hkind hvalue
      subst hkind hvalue
      obtain rfl := Option.some.inj h
      constructor
  · intro h
    cases h with
    | name hname offset =>
        rw [element?, variableName?_eq_some_iff.mpr ⟨.intro _ offset, hname⟩]
        rfl
    | _ => rfl

theorem bound?_eq_some_iff {t : Token} {bound : Number} :
    t.bound? = some bound ↔ t.Bounds bound := by
  constructor
  · intro h
    obtain ⟨kind, value, offset⟩ := t
    unfold bound? at h
    split at h
    case h_4 => contradiction
    all_goals
      rename_i hkind hvalue
      dsimp only at hkind hvalue
      subst hkind hvalue
    · obtain rfl := Option.some.inj h
      exact .integer _ _
    · obtain rfl := Option.some.inj h
      exact .double _ _
    · exact .string h _
  · intro h
    cases h with
    | string hbound offset => exact hbound
    | _ => rfl

end Token

end TagMarkup
