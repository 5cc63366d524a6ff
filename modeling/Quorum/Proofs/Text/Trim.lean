import Quorum.Proofs.Text.Digits
import Quorum.Text.Blank

/-!
# What is left of a text without the blanks around it

A text has one part that is surrounded by nothing but blanks and has none at its own ends. This part
is what trimming leaves.
-/

namespace Quorum.Text

variable {cs t front back : List Char} {c : Char}

lemma isBlank_of_isDigit (digit : isDigit c = true) : isBlank c = false := by
  obtain ⟨low, high⟩ := isDigit_iff.mp digit
  simp only [isBlank, blankRanges, List.any_cons, List.any_nil, Bool.or_false,
    Bool.or_eq_false_iff, Bool.and_eq_false_iff, decide_eq_false_iff_not]
  omega

/-- The second text is the first without the blanks around it. -/
structure Trims (cs t : List Char) : Prop where
  around : ∃ front back, cs = front ++ t ++ back ∧ ∀ c ∈ front ++ back, isBlank c = true
  first : ∀ c ∈ t.head?, isBlank c = false
  last : ∀ c ∈ t.getLast?, isBlank c = false

/-- Leading blanks are taken away up to a text that starts with none. -/
lemma trimStart_append (blank : ∀ c ∈ front, isBlank c = true)
    (first : ∀ c ∈ t.head?, isBlank c = false) : trimStart (front ++ t) = t := by
  rw [trimStart, List.dropWhile_append_of_pos blank]
  cases t with
  | nil => rfl
  | cons c t => exact trimStart_of_not_blank (first c rfl)

/-- Trailing blanks are taken away down to a text that ends with none. -/
lemma trimEnd_append (blank : ∀ c ∈ back, isBlank c = true)
    (last : ∀ c ∈ t.getLast?, isBlank c = false) : trimEnd (t ++ back) = t := by
  have turned : trimStart (back.reverse ++ t.reverse) = t.reverse := by
    refine trimStart_append (by simpa using blank) ?_
    rwa [List.head?_reverse]
  rw [trimEnd, List.reverse_append, ← trimStart, turned, List.reverse_reverse]

lemma exists_of_trimStart (cs : List Char) : ∃ front, cs = front ++ trimStart cs ∧
    (∀ c ∈ front, isBlank c = true) ∧ ∀ c ∈ (trimStart cs).head?, isBlank c = false := by
  refine ⟨cs.takeWhile isBlank, List.takeWhile_append_dropWhile.symm,
    List.all_eq_true.mp List.all_takeWhile, fun c mem => ?_⟩
  have stopped := List.head?_dropWhile_not isBlank cs
  rw [← trimStart, mem] at stopped
  simpa using stopped

lemma exists_of_trimEnd (cs : List Char) : ∃ back, cs = trimEnd cs ++ back ∧
    (∀ c ∈ back, isBlank c = true) ∧ ∀ c ∈ (trimEnd cs).getLast?, isBlank c = false := by
  obtain ⟨front, split, blank, stopped⟩ := exists_of_trimStart cs.reverse
  refine ⟨front.reverse, ?_, by simpa using blank, ?_⟩
  · rw [trimEnd, ← trimStart, ← List.reverse_append, ← split, List.reverse_reverse]
  · rwa [trimEnd, ← trimStart, List.getLast?_reverse]

/-- Trimming leaves the part that is surrounded by blanks. -/
theorem trims_iff : Trims cs t ↔ trim cs = t := by
  constructor
  · rintro ⟨⟨front, back, rfl, blank⟩, first, last⟩
    rw [List.forall_mem_append] at blank
    cases t with
    | nil =>
      have all_blank : trimStart (front ++ [] ++ back) = [] := by
        rw [List.append_nil, ← List.append_nil (front ++ back)]
        exact trimStart_append (List.forall_mem_append.mpr blank) nofun
      rw [trim, all_blank]
      rfl
    | cons c t =>
      have start : trimStart (front ++ (c :: t ++ back)) = c :: t ++ back :=
        trimStart_append blank.1 first
      rw [trim, List.append_assoc, start, trimEnd_append blank.2 last]
  · rintro rfl
    obtain ⟨front, at_start, front_blank, first⟩ := exists_of_trimStart cs
    obtain ⟨back, at_end, back_blank, last⟩ := exists_of_trimEnd (trimStart cs)
    refine ⟨⟨front, back, ?_, List.forall_mem_append.mpr ⟨front_blank, back_blank⟩⟩, ?_, last⟩
    · rw [trim, List.append_assoc, ← at_end, ← at_start]
    · intro c mem
      refine first c ?_
      rw [at_end, List.head?_append, ← trim, Option.mem_def.mp mem]
      rfl

end Quorum.Text
