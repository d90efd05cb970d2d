import Mathlib.Data.List.Basic
import TagMarkup.Document.Tag
import TagMarkup.Proofs.Characters

namespace TagMarkup

namespace Unicode

theorem uppercaseCodes_ne_nil (n : Nat) : uppercaseCodes n ≠ [] := by
  have hexpansions : ∀ expansion ∈ uppercaseExpansions, expansion.2 ≠ [] := by decide +kernel
  unfold uppercaseCodes
  split
  · rename_i codes hlookup
    obtain ⟨front, back, hsplit, -⟩ := List.lookup_eq_some_iff.mp hlookup
    exact hexpansions (n, codes) (by simp [hsplit])
  · split <;> simp

theorem uppercase_ne_nil (c : Char) : uppercase c ≠ [] := by
  unfold uppercase
  split
  · exact List.cons_ne_nil _ _
  · simpa using uppercaseCodes_ne_nil c.toNat

theorem lt_of_mem_uppercaseCodes {n code : Nat} (hn : 61 < n) (h : code ∈ uppercaseCodes n) :
    61 < code := by
  have hexpansions : ∀ expansion ∈ uppercaseExpansions, ∀ code ∈ expansion.2, 61 < code := by
    decide +kernel
  have hruns : ∀ run ∈ uppercaseRuns, 61 < run.image := by decide +kernel
  unfold uppercaseCodes at h
  split at h
  · rename_i codes hlookup
    obtain ⟨front, back, hsplit, -⟩ := List.lookup_eq_some_iff.mp hlookup
    exact hexpansions (n, codes) (by simp [hsplit]) code h
  · split at h
    · rename_i run hfind
      have himage := hruns run (List.mem_of_find?_eq_some hfind)
      simp only [List.mem_singleton, CaseRun.map] at h
      omega
    · obtain rfl := List.mem_singleton.mp h
      exact hn

theorem toNat_ofNat_eq_or (n : Nat) : (Char.ofNat n).toNat = n ∨ (Char.ofNat n).toNat = 0 := by
  unfold Char.ofNat
  by_cases hvalid : n.isValidChar
  · rw [dif_pos hvalid]
    exact .inl rfl
  · rw [dif_neg hvalid]
    exact .inr rfl

theorem eq_equals_of_mem_uppercase {c : Char} (h : '=' ∈ uppercase c) : c = '=' := by
  unfold uppercase at h
  split at h
  · rename_i hascii
    revert h
    exact of_ascii (p := fun c => '=' ∈ [c.toUpper] → c = '=') (by decide) hascii
  · rename_i hascii
    obtain ⟨code, hcode, hchar⟩ := List.mem_map.mp h
    have hlt := lt_of_mem_uppercaseCodes (by omega) hcode
    obtain hnat | hnat := toNat_ofNat_eq_or code
    · rw [hchar] at hnat
      exact absurd hlt (by rw [← hnat]; decide)
    · rw [hchar] at hnat
      contradiction

theorem flatMap_uppercase_eq_equals_iff {name : Text} :
    name.flatMap uppercase = ['='] ↔ name = ['='] := by
  constructor
  · intro h
    cases name with
    | nil => contradiction
    | cons c rest =>
        rw [List.flatMap_cons] at h
        have hmem : '=' ∈ uppercase c := by
          obtain ⟨d, tail, hupper⟩ := List.exists_cons_of_ne_nil (uppercase_ne_nil c)
          rw [hupper, List.cons_append, List.cons.injEq] at h
          simp [hupper, h.1]
        obtain rfl := eq_equals_of_mem_uppercase hmem
        have htail : rest.flatMap uppercase = [] := by
          rw [show uppercase '=' = ['='] from by decide, List.singleton_append] at h
          exact (List.cons_eq_cons.mp h).2
        cases rest with
        | nil => rfl
        | cons d tail => simp [uppercase_ne_nil] at htail
  · rintro rfl
    decide

def loopTagNames : List Text :=
  [['F', 'O', 'R'], ['E', 'N', 'D']]

theorem ascii_of_mem_loopTagNames :
    ∀ name ∈ loopTagNames, ∀ c ∈ name, 0 < c.toNat ∧ c.toNat < 128 := by
  simp [loopTagNames]

/-- What a character beyond ASCII becomes in upper case is no part of the name of a loop tag. Some
become ASCII letters all the same, but either letters that are in no such name, or several letters
that are not next to each other in any. -/
theorem not_infix_uppercase {c : Char} (hc : 128 ≤ c.toNat) {name : Text}
    (hname : name ∈ loopTagNames) : ¬uppercase c <:+: name := by
  have hexpansions : ∀ expansion ∈ uppercaseExpansions, ∀ name ∈ loopTagNames,
      ¬expansion.2.map Char.ofNat <:+: name := by
    decide +kernel
  have hruns : ∀ run ∈ uppercaseRuns, 128 ≤ run.image ∨
      run.first = run.last ∧ ∀ name ∈ loopTagNames, Char.ofNat run.image ∉ name := by
    decide +kernel
  have hbeyond {code : Nat} (hcode : 128 ≤ code) : Char.ofNat code ∉ name := by
    intro hmem
    have := ascii_of_mem_loopTagNames name hname _ hmem
    obtain hnat | hnat := toNat_ofNat_eq_or code <;> omega
  rw [uppercase, if_neg (by omega), uppercaseCodes]
  split
  · rename_i codes hlookup
    obtain ⟨front, back, hsplit, -⟩ := List.lookup_eq_some_iff.mp hlookup
    exact hexpansions (c.toNat, codes) (by simp [hsplit]) name hname
  · have hsingle {code : Nat} (hcode : Char.ofNat code ∉ name) :
        ¬[code].map Char.ofNat <:+: name :=
      fun hpart => hcode (hpart.subset List.mem_cons_self)
    split
    · rename_i run hfind
      apply hsingle
      have hcovers := List.find?_some hfind
      simp only [CaseRun.covers, Bool.and_eq_true, decide_eq_true_eq] at hcovers
      obtain himage | ⟨hpoint, himage⟩ := hruns run (List.mem_of_find?_eq_some hfind)
      · exact hbeyond (Nat.le_add_right_of_le himage)
      · have hfirst : c.toNat - run.first = 0 := by omega
        rw [CaseRun.map, hfirst]
        exact himage name hname
    · exact hsingle (hbeyond hc)

theorem uppercase_of_ascii {c : Char} (hc : c.toNat < 128) : uppercase c = [c.toUpper] :=
  if_pos hc

theorem toUpper_of_le {c : Char} (hc : 128 ≤ c.toNat) : c.toUpper = c := by
  unfold Char.toUpper
  split
  · rename_i hlower
    have hlast : c.toNat ≤ 122 := UInt32.le_iff_toNat_le.mp hlower.2
    omega
  · rfl

theorem ascii_of_flatMap_uppercase {name upper : Text} (hupper : upper ∈ loopTagNames)
    (h : name.flatMap uppercase = upper) : ∀ c ∈ name, c.toNat < 128 := by
  intro c hc
  by_contra hbeyond
  apply not_infix_uppercase (Nat.le_of_not_lt hbeyond) hupper
  rw [← h]
  exact List.infix_flatMap_of_mem hc uppercase

theorem flatMap_uppercase_of_ascii {name : Text} (h : ∀ c ∈ name, c.toNat < 128) :
    name.flatMap uppercase = name.map Char.toUpper := by
  rw [List.map_eq_flatMap]
  exact List.flatMap_congr fun c hc => uppercase_of_ascii (h c hc)

/-- Only the letters of the name of a loop tag, in either case, become that name in upper case. -/
theorem flatMap_uppercase_eq_iff {name upper : Text} (hupper : upper ∈ loopTagNames) :
    name.flatMap uppercase = upper ↔ name.map Char.toUpper = upper := by
  constructor
  · intro h
    rw [← flatMap_uppercase_of_ascii (ascii_of_flatMap_uppercase hupper h), h]
  · rintro rfl
    apply flatMap_uppercase_of_ascii
    intro c hc
    have hascii := (ascii_of_mem_loopTagNames _ hupper _ (List.mem_map_of_mem hc)).2
    by_contra hbeyond
    rw [toUpper_of_le (Nat.le_of_not_lt hbeyond)] at hascii
    exact hbeyond hascii

end Unicode

end TagMarkup
