import TagMarkup.Text
import TagMarkup.Unicode.BreakClass

namespace TagMarkup.Unicode

/-- A pictograph at the end of a text, with the marks that extend it, and maybe with a joiner. -/
inductive PictographState where
  | absent | present | joined
deriving DecidableEq

/-- A consonant at the end of a text, with the marks after it, and maybe with a linker among
them. -/
inductive ConjunctState where
  | absent | present | linked
deriving DecidableEq

/-- What decides, of the text before a character, whether it may be cut there. -/
structure BreakContext where
  /-- The class of the last character. -/
  last : BreakClass
  /-- Whether the text ends in an odd number of regional indicators. -/
  oddRegional : Bool
  pictograph : PictographState
  conjunct : ConjunctState
deriving DecidableEq

def PictographState.advance (s : PictographState) : BreakClass → PictographState
  | .pictographic => .present
  | .extend => if s = .present then .present else .absent
  | .zeroWidthJoiner => if s = .present then .joined else .absent
  | _ => .absent

def ConjunctState.advance (s : ConjunctState) : ConjunctClass → ConjunctState
  | .consonant => .present
  | .linker => if s = .absent then .absent else .linked
  | .extend => s
  | .none => .absent

namespace BreakContext

def start : BreakContext :=
  ⟨.other, false, .absent, .absent⟩

def advance (x : BreakContext) (c : Char) : BreakContext where
  last := .ofChar c
  oddRegional := BreakClass.ofChar c == .regionalIndicator && !x.oddRegional
  pictograph := x.pictograph.advance (.ofChar c)
  conjunct := x.conjunct.advance (.ofChar c)

/-- Classes between which every text is cut, whatever stands next to them. -/
def standsAlone : BreakClass → Bool
  | .carriageReturn | .lineFeed | .control => true
  | _ => false

/-- Whether a text with this context is cut before a character. The first rule that applies
decides. -/
def cutsBefore (x : BreakContext) (c : Char) : Bool :=
  match x.last, BreakClass.ofChar c with
  | .carriageReturn, .lineFeed => false
  | last, next =>
    if standsAlone last || standsAlone next then true
    else
      match last, next with
      | .leadingConsonant, .leadingConsonant | .leadingConsonant, .vowel
      | .leadingConsonant, .openSyllable | .leadingConsonant, .closedSyllable => false
      | .openSyllable, .vowel | .openSyllable, .trailingConsonant => false
      | .vowel, .vowel | .vowel, .trailingConsonant => false
      | .closedSyllable, .trailingConsonant => false
      | .trailingConsonant, .trailingConsonant => false
      | _, .extend | _, .zeroWidthJoiner | _, .spacingMark => false
      | .prepended, _ => false
      | .zeroWidthJoiner, .pictographic => x.pictograph != .joined
      | .regionalIndicator, .regionalIndicator => !x.oddRegional
      | _, _ => !(x.conjunct == .linked && ConjunctClass.ofChar c == .consonant)

end BreakContext

/-- The clusters of a text with the given context before it, the first of which begins with the
text. -/
def clustersAfter (x : BreakContext) : Text → List Text
  | [] => []
  | c :: rest =>
    match clustersAfter (x.advance c) rest with
    | (d :: cluster) :: clusters =>
      if (x.advance c).cutsBefore d then [c] :: (d :: cluster) :: clusters
      else (c :: d :: cluster) :: clusters
    | _ => [[c]]

def clusters (t : Text) : List Text :=
  clustersAfter .start t

end TagMarkup.Unicode
