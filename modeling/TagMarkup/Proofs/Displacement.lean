import TagMarkup.Proofs.Offsets
import TagMarkup.Document.Parse

namespace TagMarkup

/-- Where an offset comes to lie once `n` characters are put in at `i`. -/
def displaced (i n offset : Nat) : Nat :=
  if i ≤ offset then offset + n else offset

def Token.displace (i n : Nat) (t : Token) : Token :=
  { t with offset := displaced i n t.offset }

@[simp] theorem Token.displace_kind (i n : Nat) (t : Token) :
    (t.displace i n).kind = t.kind := rfl

@[simp] theorem Token.displace_value (i n : Nat) (t : Token) :
    (t.displace i n).value = t.value := rfl

/-- The same error once `n` characters are put in at `i`. -/
def ParseError.displace (i n : Nat) (e : ParseError) : ParseError :=
  if i ≤ e.offset then e.shift n else e

theorem ParseError.displace_of (i n : Nat) (make : Nat → ParseError)
    (hoffset : ∀ offset, (make offset).offset = offset)
    (hshift : ∀ offset, (make offset).shift n = make (offset + n)) (offset : Nat) :
    (make offset).displace i n = make (displaced i n offset) := by
  rw [displace, displaced, hoffset, hshift]
  split <;> rfl

def OpenLoop.displace (i n : Nat) (l : OpenLoop) : OpenLoop :=
  { l with opened := displaced i n l.opened }

def Place.displace (i n : Nat) : Place → Place
  | .betweenTags => .betweenTags
  | .tagName opened => .tagName (displaced i n opened)
  | .echo elements => .echo elements
  | .loopName opened => .loopName (displaced i n opened)
  | .loopBounds opened name bounds => .loopBounds (displaced i n opened) name bounds
  | .endClose opened => .endClose (displaced i n opened)

namespace Assembly

def displace (i n : Nat) (a : Assembly) : Assembly :=
  ⟨a.root, a.loops.map (OpenLoop.displace i n), a.place.displace i n⟩

def Progress.displace (i n : Nat) : Progress → Progress
  | .go events next => .go events (next.displace i n)
  | .done events result => .done events (result.mapError (ParseError.displace i n))

variable (i n : Nat) (options : ParseOptions) (a : Assembly) (t : Token)

theorem push_displace (node : Node) :
    (a.push node).displace i n = (a.displace i n).push node := by
  obtain ⟨root, loops, place⟩ := a
  cases loops <;> rfl

theorem closeAll_displace (root pending : List Node) (loops : List OpenLoop) :
    closeAll root pending (loops.map (OpenLoop.displace i n)) = closeAll root pending loops := by
  induction loops generalizing pending with
  | nil => rfl
  | cons l loops ih => exact ih _

theorem fail_displace {make : Nat → ParseError}
    (hoffset : ∀ offset, (make offset).offset = offset)
    (hshift : ∀ offset, (make offset).shift n = make (offset + n)) (offset : Nat) :
    (Progress.fail (make offset)).displace i n =
      .fail (make (TagMarkup.displaced i n offset)) := by
  rw [← ParseError.displace_of i n make hoffset hshift]
  rfl

theorem finish_displace :
    (a.displace i n).finish options = (a.finish options).displace i n := by
  obtain ⟨root, loops, place⟩ := a
  obtain ⟨allowed⟩ := options
  cases loops with
  | nil => cases allowed <;> rfl
  | cons l loops =>
      cases allowed with
      | true =>
          let closed := (l :: loops).map (OpenLoop.displace i n)
          change Progress.done (closed.map (fun l => .closeImplicitly l.header.name) ++
            [.parsed (Document.nodeCount ⟨closeAll root [] closed⟩)])
            (.ok ⟨closeAll root [] closed⟩) = _
          rw [closeAll_displace, List.map_map]
          rfl
      | false => exact (fail_displace i n (fun _ => rfl) (fun _ => rfl) l.opened).symm

theorem takeBetweenTags_displace :
    (a.displace i n).takeBetweenTags options (t.displace i n) =
      (a.takeBetweenTags options t).displace i n := by
  unfold takeBetweenTags
  rw [Token.displace_kind, Token.displace_value]
  split
  · exact finish_displace i n options a
  · exact congrArg Progress.goOn (push_displace i n a _).symm
  · rfl
  · exact (fail_displace i n (fun _ => rfl) (fun _ => rfl) t.offset).symm

theorem takeTagName_displace (opened : Nat) :
    (a.displace i n).takeTagName (displaced i n opened) (t.displace i n) =
      (a.takeTagName opened t).displace i n := by
  have hname : (t.displace i n).tagName? = t.tagName? := rfl
  unfold takeTagName
  rw [Token.displace_kind, hname]
  split
  · exact (fail_displace i n (fun _ => rfl) (fun _ => rfl) opened).symm
  · cases t.tagName? with
    | none => exact (fail_displace i n (fun _ => rfl) (fun _ => rfl) t.offset).symm
    | some name => cases name <;> rfl

theorem takeElement_displace (elements : List Element) :
    (a.displace i n).takeElement elements (t.displace i n) =
      (a.takeElement elements t).displace i n := by
  have helement : (t.displace i n).element? = t.element? := rfl
  unfold takeElement
  rw [Token.displace_kind, helement]
  split
  · exact congrArg Progress.goOn (push_displace i n (a.goTo .betweenTags) _).symm
  · cases t.element? with
    | none => exact (fail_displace i n (fun _ => rfl) (fun _ => rfl) t.offset).symm
    | some element => rfl

theorem takeLoopName_displace (opened : Nat) :
    (a.displace i n).takeLoopName (displaced i n opened) (t.displace i n) =
      (a.takeLoopName opened t).displace i n := by
  have hname : (t.displace i n).variableName? = t.variableName? := rfl
  unfold takeLoopName
  rw [hname]
  cases t.variableName? with
  | none => exact (fail_displace i n (fun _ => rfl) (fun _ => rfl) t.offset).symm
  | some name => rfl

theorem openLoop_displace (opened : Nat) (name : Text) (bounds : List Number) :
    (a.displace i n).openLoop (displaced i n opened) name bounds =
      (a.openLoop opened name bounds).displace i n := by
  unfold Assembly.openLoop
  split
  · simp [displace, Progress.displace, OpenLoop.displace, Place.displace]
  · exact (fail_displace i n (fun _ => rfl) (fun _ => rfl) opened).symm

theorem takeBound_displace (opened : Nat) (name : Text) (bounds : List Number) :
    (a.displace i n).takeBound (displaced i n opened) name bounds (t.displace i n) =
      (a.takeBound opened name bounds t).displace i n := by
  have hbound : (t.displace i n).bound? = t.bound? := rfl
  unfold takeBound
  rw [Token.displace_kind, hbound]
  split
  · exact openLoop_displace i n a opened name bounds
  split
  · exact (fail_displace i n (fun _ => rfl) (fun _ => rfl) t.offset).symm
  · cases t.bound? with
    | none => exact (fail_displace i n (fun _ => rfl) (fun _ => rfl) t.offset).symm
    | some bound => rfl

theorem closeLoop_displace (opened : Nat) :
    (a.displace i n).closeLoop (displaced i n opened) = (a.closeLoop opened).displace i n := by
  obtain ⟨root, loops, place⟩ := a
  cases loops with
  | nil => exact (fail_displace i n (fun _ => rfl) (fun _ => rfl) opened).symm
  | cons l loops =>
      have hpush := push_displace i n ⟨root, loops, .betweenTags⟩ l.close
      change Progress.go [.closeLoop l.header.name (loops.map (OpenLoop.displace i n)).length] _ =
        Progress.go [.closeLoop l.header.name loops.length] _
      rw [List.length_map, hpush]
      rfl

theorem takeEndClose_displace (opened : Nat) :
    (a.displace i n).takeEndClose (displaced i n opened) (t.displace i n) =
      (a.takeEndClose opened t).displace i n := by
  unfold takeEndClose
  rw [Token.displace_kind]
  split
  · exact closeLoop_displace i n a opened
  · exact (fail_displace i n (fun _ => rfl) (fun _ => rfl) t.offset).symm

/-- A moved token takes a moved assembly where the token takes the assembly. -/
theorem step_displace :
    (a.displace i n).step options (t.displace i n) = (a.step options t).displace i n := by
  obtain ⟨root, loops, place⟩ := a
  cases place with
  | betweenTags => exact takeBetweenTags_displace i n options _ t
  | tagName opened => exact takeTagName_displace i n _ t opened
  | echo elements => exact takeElement_displace i n _ t elements
  | loopName opened => exact takeLoopName_displace i n _ t opened
  | loopBounds opened name bounds => exact takeBound_displace i n _ t opened name bounds
  | endClose opened => exact takeEndClose_displace i n _ t opened

theorem run_displace (tokens : List Token) (offset : Nat) :
    ((a.displace i n).run options (displaced i n offset)
        ((tokens.map (Token.displace i n)).map .ok)).2 =
      (a.run options offset (tokens.map .ok)).2.mapError (ParseError.displace i n) := by
  induction tokens generalizing a offset with
  | nil =>
      have hpast := ParseError.displace_of i n (fun offset => .lex (.pastEndOfInput offset))
        (fun _ => rfl) (fun _ => rfl) offset
      exact congrArg Except.error hpast.symm
  | cons t tokens ih =>
      simp only [List.map_cons]
      rw [run, run, step_displace]
      cases a.step options t with
      | done events result => rfl
      | go events next => exact ih next t.offset

end Assembly

/-- Where the tokens of a source are those of another with some of them further on, so is the error
of its parse. -/
theorem Document.parse_displace {source other : Text} {tokens : List Token} {i n : Nat}
    (hi : 0 < i) (htokens : tokenize source = .ok tokens)
    (hother : tokenize other = .ok (tokens.map (Token.displace i n))) (options : ParseOptions) :
    parse options other = (parse options source).mapError (ParseError.displace i n) := by
  have hsource : (Lexer.ofSource source).items = tokens.map .ok := collect_eq_ok_iff.mp htokens
  have hmoved : (Lexer.ofSource other).items = (tokens.map (Token.displace i n)).map .ok :=
    collect_eq_ok_iff.mp hother
  have hstart : displaced i n 0 = 0 := if_neg (Nat.not_le.mpr hi)
  have hrun := Assembly.run_displace i n options .empty tokens 0
  rw [hstart] at hrun
  rw [parse, parse, trace, trace, hsource, hmoved]
  exact hrun

end TagMarkup
