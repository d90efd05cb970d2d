import Mathlib.Data.List.Basic
import Mathlib.Tactic.SplitIfs
import TagMarkup.Quoted

namespace TagMarkup

/-- What stands before the first mark in a text, and what comes after it. -/
theorem Text.append_cons_inj {mark : Char} {front front' rest rest' : Text}
    (hfront : mark ∉ front) (hfront' : mark ∉ front')
    (h : front ++ mark :: rest = front' ++ mark :: rest') : front = front' ∧ rest = rest' := by
  induction front generalizing front' with
  | nil =>
      cases front' with
      | nil => exact ⟨rfl, (List.cons_eq_cons.mp h).2⟩
      | cons d front' =>
          obtain rfl : mark = d := (List.cons_eq_cons.mp h).1
          exact absurd List.mem_cons_self hfront'
  | cons c front ih =>
      cases front' with
      | nil =>
          obtain rfl : c = mark := (List.cons_eq_cons.mp h).1
          exact absurd List.mem_cons_self hfront
      | cons d front' =>
          obtain ⟨rfl, htail⟩ := List.cons_eq_cons.mp h
          obtain ⟨rfl, hrest⟩ := ih (List.not_mem_of_not_mem_cons hfront)
            (List.not_mem_of_not_mem_cons hfront') htail
          exact ⟨rfl, hrest⟩

/-- Lines without line ends in them are read back from a text in which a line end comes after
each. -/
theorem Text.splitOn_lines {lines : List Text} (h : ∀ line ∈ lines, '\n' ∉ line) :
    (lines.flatMap (· ++ ['\n'])).splitOn '\n' = lines ++ [[]] := by
  induction lines with
  | nil => rfl
  | cons line lines ih =>
      rw [List.forall_mem_cons] at h
      rw [List.flatMap_cons, List.append_assoc, List.singleton_append,
        List.splitOn_append_cons_self_of_not_mem h.1, ih h.2, List.cons_append]

theorem Text.lines_inj {lines others : List Text} (hlines : ∀ line ∈ lines, '\n' ∉ line)
    (hothers : ∀ line ∈ others, '\n' ∉ line)
    (h : lines.flatMap (· ++ ['\n']) = others.flatMap (· ++ ['\n'])) : lines = others := by
  have hsplit := Text.splitOn_lines hlines
  rw [h, Text.splitOn_lines hothers] at hsplit
  exact (List.append_cancel_right hsplit).symm

namespace Quoted

theorem digitChar_inj : ∀ i < 16, ∀ j < 16, Nat.digitChar i = Nat.digitChar j → i = j := by
  decide

theorem exists_digitChar_of_mem {n : Nat} {c : Char} (h : c ∈ Nat.toDigits 16 n) :
    ∃ i < 16, c = Nat.digitChar i := by
  induction n using Nat.strongRecOn with
  | ind n ih =>
      rw [Nat.toDigits_eq_if (by decide)] at h
      split at h
      · rename_i hlt
        exact ⟨n, hlt, List.mem_singleton.mp h⟩
      · rename_i hle
        obtain h | h := List.mem_append.mp h
        · exact ih (n / 16) (by omega) h
        · exact ⟨n % 16, by omega, List.mem_singleton.mp h⟩

theorem not_mem_toDigits {n : Nat} {c : Char} (h : ∀ i < 16, Nat.digitChar i ≠ c) :
    c ∉ Nat.toDigits 16 n := by
  intro hmem
  obtain ⟨i, hi, rfl⟩ := exists_digitChar_of_mem hmem
  exact h i hi rfl

theorem toDigits_inj {n m : Nat} (h : Nat.toDigits 16 n = Nat.toDigits 16 m) : n = m := by
  induction n using Nat.strongRecOn generalizing m with
  | ind n ih =>
      rw [Nat.toDigits_eq_if (n := n) (by decide), Nat.toDigits_eq_if (n := m) (by decide)] at h
      split at h
      · rename_i hn
        split at h
        · rename_i hm
          exact digitChar_inj n hn m hm (List.singleton_inj.mp h)
        · exact absurd (congrArg List.length h) (by simp [Nat.toDigits_ne_nil])
      · split at h
        · exact absurd (congrArg List.length h) (by simp [Nat.toDigits_ne_nil])
        · obtain ⟨hfront, hlast⟩ := List.append_inj' h rfl
          have hdiv := ih (n / 16) (by omega) hfront
          have hmod := digitChar_inj (n % 16) (by omega) (m % 16) (by omega)
            (List.singleton_inj.mp hlast)
          omega

/-- Characters with the letter that stands for each of them after a backslash. -/
def marks (quote : Char) : List (Char × Char) :=
  [('\x00', '0'), ('\t', 't'), ('\r', 'r'), ('\n', 'n'), ('\\', '\\'), (quote, quote)]

/-- The forms of one character between marks of quotation. -/
inductive Shown (quote : Char) : Char → Text → Prop
  | mark {c d : Char} (hmark : (c, d) ∈ marks quote) : Shown quote c ['\\', d]
  | code (c : Char) : Shown quote c (escapeCode c)
  | plain {c : Char} (hescape : c ≠ '\\') (hquote : c ≠ quote) (hline : c ≠ '\n') :
      Shown quote c [c]

theorem shown_escape (quote c : Char) : Shown quote c (escape quote c) := by
  unfold escape
  split_ifs with hnul htab hreturn hline hself hcode
  · exact .mark (by simp [marks, hnul])
  · exact .mark (by simp [marks, htab])
  · exact .mark (by simp [marks, hreturn])
  · exact .mark (by simp [marks, hline])
  · exact .mark (by obtain rfl | rfl := hself <;> simp [marks])
  · exact .code c
  · rw [not_or] at hself
    exact .plain hself.1 hself.2 hline

theorem escapeCode_append (c : Char) (rest : Text) :
    escapeCode c ++ rest = ['\\', 'u', '{'] ++ (Nat.toDigits 16 c.toNat ++ '}' :: rest) := by
  simp [escapeCode]

theorem escapeCode_append_inj {c d : Char} {rest rest' : Text}
    (h : escapeCode c ++ rest = escapeCode d ++ rest') : c = d ∧ rest = rest' := by
  have hclose (n : Nat) : '}' ∉ Nat.toDigits 16 n := not_mem_toDigits (by decide)
  rw [escapeCode_append, escapeCode_append] at h
  obtain ⟨hdigits, hrest⟩ :=
    Text.append_cons_inj (hclose _) (hclose _) (List.append_cancel_left h)
  exact ⟨Char.toNat_inj.mp (toDigits_inj hdigits), hrest⟩

section Quote

variable {quote : Char} (hquote : quote = '"' ∨ quote = '\'')
include hquote

theorem marks_inj : ∀ p ∈ marks quote, ∀ q ∈ marks quote, p.2 = q.2 → p.1 = q.1 := by
  obtain rfl | rfl := hquote <;> decide

theorem marks_ne : ∀ p ∈ marks quote, p.2 ≠ 'u' ∧ p.2 ≠ '\n' := by
  obtain rfl | rfl := hquote <;> decide

/-- From a text that begins with the form of a character one can tell the character, and where its
form ends. -/
theorem Shown.unique {c d : Char} {form form' rest rest' : Text} (h : Shown quote c form)
    (h' : Shown quote d form') (happend : form ++ rest = form' ++ rest') :
    c = d ∧ rest = rest' := by
  cases h with
  | mark hmark =>
      cases h' with
      | mark hmark' =>
          obtain ⟨-, htail⟩ := List.cons_eq_cons.mp happend
          obtain ⟨hsame, hrest⟩ := List.cons_eq_cons.mp htail
          exact ⟨marks_inj hquote _ hmark _ hmark' hsame, hrest⟩
      | code =>
          obtain ⟨-, htail⟩ := List.cons_eq_cons.mp happend
          exact absurd (List.cons_eq_cons.mp htail).1 (marks_ne hquote _ hmark).1
      | plain hescape => exact absurd (List.cons_eq_cons.mp happend).1.symm hescape
  | code =>
      cases h' with
      | mark hmark' =>
          obtain ⟨-, htail⟩ := List.cons_eq_cons.mp happend
          exact absurd (List.cons_eq_cons.mp htail).1.symm (marks_ne hquote _ hmark').1
      | code => exact escapeCode_append_inj happend
      | plain hescape => exact absurd (List.cons_eq_cons.mp happend).1.symm hescape
  | plain hescape =>
      cases h' with
      | mark hmark' => exact absurd (List.cons_eq_cons.mp happend).1 hescape
      | code => exact absurd (List.cons_eq_cons.mp happend).1 hescape
      | plain => exact List.cons_eq_cons.mp happend

theorem Shown.not_mem_newline {c : Char} {form : Text} (h : Shown quote c form) :
    '\n' ∉ form := by
  cases h with
  | mark hmark => simpa using (marks_ne hquote _ hmark).2.symm
  | code =>
      have hdigits : '\n' ∉ Nat.toDigits 16 c.toNat := not_mem_toDigits (by decide)
      simpa [escapeCode] using hdigits
  | plain hescape hmark hline => simpa using hline.symm

theorem Shown.exists_cons {c : Char} {form : Text} (h : Shown quote c form) :
    ∃ d rest, form = d :: rest ∧ d ≠ quote := by
  have hescape : '\\' ≠ quote := by obtain rfl | rfl := hquote <;> decide
  cases h with
  | mark hmark => exact ⟨_, _, rfl, hescape⟩
  | code => exact ⟨_, _, rfl, hescape⟩
  | plain hescape hmark hline => exact ⟨_, _, rfl, hmark⟩

end Quote

theorem flatMap_escape_append_inj {t u rest rest' : Text}
    (h : t.flatMap (escape '"') ++ '"' :: rest = u.flatMap (escape '"') ++ '"' :: rest') :
    t = u ∧ rest = rest' := by
  have hstart (c : Char) (front back : Text) : '"' :: front ≠ escape '"' c ++ back := by
    obtain ⟨d, form, hform, hd⟩ := (shown_escape '"' c).exists_cons (.inl rfl)
    rw [hform]
    exact fun heq => hd (List.cons_eq_cons.mp heq).1.symm
  induction t generalizing u with
  | nil =>
      cases u with
      | nil => exact ⟨rfl, (List.cons_eq_cons.mp h).2⟩
      | cons d u =>
          rw [List.flatMap_cons, List.append_assoc] at h
          exact absurd h (hstart d _ _)
  | cons c t ih =>
      rw [List.flatMap_cons, List.append_assoc] at h
      cases u with
      | nil => exact absurd h.symm (hstart c _ _)
      | cons d u =>
          rw [List.flatMap_cons, List.append_assoc] at h
          obtain ⟨rfl, htail⟩ := (shown_escape '"' c).unique (.inl rfl) (shown_escape '"' d) h
          obtain ⟨rfl, hrest⟩ := ih htail
          exact ⟨rfl, hrest⟩

/-- From a text that begins with a quoted text one can tell what is quoted, and where it ends. -/
theorem text_append_inj {t u rest rest' : Text} (h : text t ++ rest = text u ++ rest') :
    t = u ∧ rest = rest' := by
  simp only [text, List.cons_append, List.append_assoc, List.nil_append] at h
  exact flatMap_escape_append_inj (List.cons_eq_cons.mp h).2

theorem not_mem_newline_text (t : Text) : '\n' ∉ text t := by
  have hforms : ∀ c ∈ t, '\n' ∉ escape '"' c :=
    fun c _ => (shown_escape '"' c).not_mem_newline (.inl rfl)
  simpa [text] using hforms

theorem char_append_inj {c d : Char} {rest rest' : Text} (h : char c ++ rest = char d ++ rest') :
    c = d ∧ rest = rest' := by
  simp only [char, List.cons_append, List.append_assoc, List.nil_append] at h
  obtain ⟨rfl, htail⟩ :=
    (shown_escape '\'' c).unique (.inr rfl) (shown_escape '\'' d) (List.cons_eq_cons.mp h).2
  exact ⟨rfl, (List.cons_eq_cons.mp htail).2⟩

theorem not_mem_newline_char (c : Char) : '\n' ∉ char c := by
  have hform := (shown_escape '\'' c).not_mem_newline (.inr rfl)
  simpa [char] using hform

end Quoted

end TagMarkup
