import TagMarkup.Proofs.Offsets
import TagMarkup.Proofs.Rejection

namespace TagMarkup

/-! What an assembly does depends neither on its first nodes nor on where the source begins. -/

def Place.shift (n : Nat) : Place → Place
  | .betweenTags => .betweenTags
  | .tagName opened => .tagName (opened + n)
  | .echo elements => .echo elements
  | .loopName opened => .loopName (opened + n)
  | .loopBounds opened name bounds => .loopBounds (opened + n) name bounds
  | .endClose opened => .endClose (opened + n)

def OpenLoop.shift (n : Nat) (l : OpenLoop) : OpenLoop :=
  { l with opened := l.opened + n }

namespace Token

variable {t : Token}

theorem IsName.shift {name : Text} (h : t.IsName name) (n : Nat) : (t.shift n).IsName name := by
  cases h
  exact .intro name _

theorem IsTagName.shift {upper : Text} (h : t.IsTagName upper) (n : Nat) :
    (t.shift n).IsTagName upper := by
  obtain ⟨name, hname, hupper⟩ := h
  exact ⟨name, hname.shift n, hupper⟩

theorem Denotes.shift {element : Element} (h : t.Denotes element) (n : Nat) :
    (t.shift n).Denotes element := by
  cases h with
  | name hname => exact .name hname _
  | _ => constructor

theorem Bounds.shift {bound : Number} (h : t.Bounds bound) (n : Nat) :
    (t.shift n).Bounds bound := by
  cases h with
  | string hbound => exact .string hbound _
  | _ => constructor

end Token

namespace Assembly

/-- The assembly `b` is `a` with the nodes `base'` in place of the `base` that it began with, and
with offsets that are greater by `n`. -/
structure Relocated (n : Nat) (base base' : List Node) (a b : Assembly) : Prop where
  root : ∃ latest, a.root = latest ++ base ∧ b.root = latest ++ base'
  loops : b.loops = a.loops.map (OpenLoop.shift n)
  place : b.place = a.place.shift n

namespace Relocated

variable {n : Nat} {base base' : List Node} {a b : Assembly}

theorem place_eq (h : Relocated n base base' a b) {place : Place} (hplace : a.place = place) :
    b.place = place.shift n :=
  h.place.trans (congrArg (Place.shift n) hplace)

theorem goTo (h : Relocated n base base' a b) (place : Place) :
    Relocated n base base' (a.goTo place) (b.goTo (place.shift n)) :=
  ⟨h.root, h.loops, rfl⟩

theorem push (h : Relocated n base base' a b) (node : Node) :
    Relocated n base base' (a.push node) (b.push node) := by
  obtain ⟨root, loops, place⟩ := a
  obtain ⟨root', loops', place'⟩ := b
  obtain ⟨⟨latest, hroot, hroot'⟩, hloops, hplace⟩ := h
  dsimp only at hroot hroot' hloops hplace
  subst hroot hroot' hloops hplace
  cases loops with
  | nil => exact ⟨⟨node :: latest, rfl, rfl⟩, rfl, rfl⟩
  | cons l loops => exact ⟨⟨latest, rfl, rfl⟩, rfl, rfl⟩

theorem leave (h : Relocated n base base' a b) (l : OpenLoop) (loops : List OpenLoop) :
    Relocated n base base' (a.leave l loops)
      (b.leave (l.shift n) (loops.map (OpenLoop.shift n))) := by
  have hinner : Relocated n base base' { a with loops := loops, place := .betweenTags }
      { b with loops := loops.map (OpenLoop.shift n), place := .betweenTags } :=
    ⟨h.root, rfl, rfl⟩
  exact hinner.push l.close

theorem takes (h : Relocated n base base' a b) {t : Token} {events : List Event} {next : Assembly}
    (hstep : Takes a t events next) :
    ∃ events' next', Takes b (t.shift n) events' next' ∧ Relocated n base base' next next' := by
  cases hstep with
  | text content offset hplace =>
      exact ⟨_, _, .text content _ (h.place_eq hplace), h.push _⟩
  | mark hplace hkind => exact ⟨_, _, .mark (h.place_eq hplace) hkind, h.goTo _⟩
  | tag name hplace htag =>
      refine ⟨_, _, .tag name (h.place_eq hplace) (htag.shift n), ?_⟩
      cases name <;> exact h.goTo _
  | element hplace helement =>
      exact ⟨_, _, .element (h.place_eq hplace) (helement.shift n), h.goTo _⟩
  | closeEcho hplace hkind =>
      exact ⟨_, _, .closeEcho (h.place_eq hplace) hkind, (h.goTo .betweenTags).push _⟩
  | subject hplace hname hvalid =>
      exact ⟨_, _, .subject (h.place_eq hplace) (hname.shift n) hvalid, h.goTo _⟩
  | bound hplace hlength hbound =>
      exact ⟨_, _, .bound (h.place_eq hplace) hlength (hbound.shift n), h.goTo _⟩
  | openLoop hplace hkind =>
      refine ⟨_, _, .openLoop (h.place_eq hplace) hkind, h.root, ?_, rfl⟩
      exact congrArg (_ :: ·) h.loops
  | @closeLoop _ opened l loops hplace hkind hloops =>
      have hloops' : b.loops = l.shift n :: loops.map (OpenLoop.shift n) := by
        rw [h.loops, hloops, List.map_cons]
      exact ⟨_, _, .closeLoop (h.place_eq hplace) hkind hloops', h.leave l loops⟩

theorem steps (h : Relocated n base base' a b) {tokens : List Token} {events : List Event}
    {final : Assembly} (hsteps : Steps a tokens events final) :
    ∃ events' final', Steps b (tokens.map (Token.shift n)) events' final' ∧
      Relocated n base base' final final' := by
  induction hsteps generalizing b with
  | refl => exact ⟨[], b, .refl b, h⟩
  | cons hstep hrest ih =>
      obtain ⟨events, next, hstep', hnext⟩ := h.takes hstep
      obtain ⟨later, final, hrest', hfinal⟩ := ih hnext
      exact ⟨_, final, .cons hstep' hrest', hfinal⟩

theorem rejects (h : Relocated n base base' a b) {options : ParseOptions} {t : Token}
    {e : ParseError} (hreject : Rejects options a t e) :
    Rejects options b (t.shift n) (e.shift n) := by
  cases hreject with
  | unexpected hplace hend hmark htext =>
      exact .unexpected (h.place_eq hplace) hend hmark htext
  | @unterminatedLoop l loops hplace hkind hstrict hloops =>
      have hloops' : b.loops = l.shift n :: loops.map (OpenLoop.shift n) := by
        rw [h.loops, hloops, List.map_cons]
      exact .unterminatedLoop (t := t.shift n) (h.place_eq hplace) hkind hstrict hloops'
  | emptyTag hplace hkind => exact .emptyTag (h.place_eq hplace) hkind
  | unknownTag hplace hkind hname => exact .unknownTag (h.place_eq hplace) hkind hname
  | invalidElement hplace hkind helement =>
      exact .invalidElement (h.place_eq hplace) hkind helement
  | missingLoopName hplace hname => exact .missingLoopName (h.place_eq hplace) hname
  | tooFewBounds hplace hkind hlength => exact .tooFewBounds (h.place_eq hplace) hkind hlength
  | unclosedLoopTag hplace hkind hlength =>
      exact .unclosedLoopTag (h.place_eq hplace) hkind hlength
  | invalidBound hplace hkind hlength hbound =>
      exact .invalidBound (h.place_eq hplace) hkind hlength hbound
  | unmatchedEnd hplace hkind hloops =>
      exact .unmatchedEnd (h.place_eq hplace) hkind (by rw [h.loops, hloops, List.map_nil])
  | unclosedEndTag hplace hkind => exact .unclosedEndTag (h.place_eq hplace) hkind

theorem fails (h : Relocated n base base' a b) {options : ParseOptions}
    {item : Except LexError Token} {e : ParseError} (hfails : Fails options a item e) :
    Fails options b (shiftItem n item) (e.shift n) := by
  cases hfails with
  | lex e => exact .lex (e.shift n)
  | rejects hreject => exact .rejects (h.rejects hreject)

theorem ends (h : Relocated n base base' a b) {t : Token} {events : List Event} {d : Document}
    (hends : Ends {} a t events d) :
    ∃ events' nodes, Ends {} b (t.shift n) events' ⟨base'.reverse ++ nodes⟩ ∧
      d.children = base.reverse ++ nodes := by
  have hloops : a.loops = [] := hends.loops.resolve_left Bool.false_ne_true
  have hloops' : b.loops = [] := by rw [h.loops, hloops, List.map_nil]
  obtain ⟨latest, hroot, hroot'⟩ := h.root
  refine ⟨_, latest.reverse, ⟨h.place_eq hends.place, hends.kind, .inr hloops', rfl, ?_⟩, ?_⟩
  · rw [hroot', hloops', closeAll, List.nil_append, List.reverse_append]
  · rw [hends.document, hroot, hloops, closeAll, List.nil_append, List.reverse_append]

end Relocated

end Assembly

end TagMarkup
