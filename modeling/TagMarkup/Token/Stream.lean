import TagMarkup.Token.Progress

namespace TagMarkup

namespace Lexer

/-- What bounds the stream: the characters left, and one step more while it is not closed. -/
def stepsLeft (lx : Lexer) : Nat :=
  lx.rest.length + if lx.failed || lx.isFinished then 0 else 1

theorem stepsLeft_next? {lx moved : Lexer} {item : Except LexError Token}
    (h : lx.next? = some (item, moved)) : moved.stepsLeft < lx.stepsLeft := by
  unfold next? at h
  split at h
  · contradiction
  rename_i hlive
  have hlive : (lx.failed || lx.isFinished) = false := by simpa using hlive
  have hsteps : lx.stepsLeft = lx.rest.length + 1 := by simp [stepsLeft, hlive]
  have hfinished : lx.isFinished = false := (Bool.or_eq_false_iff.mp hlive).2
  have hconserves := Lexeme.read_conserves lx.mode lx.offset lx.rest
  have hadvances := Lexeme.read_advances lx.mode lx.offset lx.rest
  unfold Lexeme.Conserves at hconserves
  unfold Lexeme.Advances at hadvances
  unfold nextToken at h
  simp only [hfinished, Bool.false_eq_true, if_false] at h
  rw [hsteps]
  cases houtcome : (Lexeme.read lx.mode lx.offset lx.rest).outcome with
  | error e =>
      simp only [houtcome, Option.some.injEq, Prod.mk.injEq] at h
      obtain ⟨-, rfl⟩ := h
      simp [stepsLeft]
      omega
  | ok t =>
      simp only [houtcome, Option.some.injEq, Prod.mk.injEq] at h
      obtain ⟨-, rfl⟩ := h
      by_cases hkind : t.kind = .endOfInput
      · simp [stepsLeft, isFinished, hkind]
        omega
      · have := hadvances t houtcome hkind
        simp only [stepsLeft]
        split <;> omega

/-- The items of the stream, and the lexer after the last of them. -/
def drain (lx : Lexer) : List (Except LexError Token) × Lexer :=
  match _h : lx.next? with
  | none => ([], lx)
  | some (item, moved) =>
      let (items, final) := moved.drain
      (item :: items, final)
termination_by lx.stepsLeft
decreasing_by exact stepsLeft_next? _h

theorem drain_of_none {lx : Lexer} (h : lx.next? = none) : lx.drain = ([], lx) := by
  rw [drain]
  split
  · rfl
  · next heq => rw [h] at heq; contradiction

theorem drain_of_some {lx moved : Lexer} {item : Except LexError Token}
    (h : lx.next? = some (item, moved)) :
    lx.drain = (item :: moved.drain.1, moved.drain.2) := by
  rw [drain]
  split
  · next heq => rw [h] at heq; contradiction
  · next heq =>
    rw [h] at heq
    obtain ⟨rfl, rfl⟩ := heq
    rfl

def items (lx : Lexer) : List (Except LexError Token) :=
  lx.drain.1

end Lexer

def collect : List (Except LexError Token) → Except LexError (List Token)
  | [] => .ok []
  | .error e :: _ => .error e
  | .ok t :: items => (collect items).map (t :: ·)

def tokenize (source : Text) : Except LexError (List Token) :=
  collect (Lexer.ofSource source).items

end TagMarkup
