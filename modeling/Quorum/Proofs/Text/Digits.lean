import Mathlib.Algebra.Group.Nat.Defs
import Mathlib.Tactic.Lemma
import Quorum.Text.Digits

/-!
# Decimal digits read back

The digits of a number denote it, also when zeros stand before them, and they start with a zero only
if the number is zero.
-/

namespace Quorum.Text

lemma isDigit_iff {c : Char} : isDigit c = true ↔ 48 ≤ c.toNat ∧ c.toNat ≤ 57 := by
  rw [isDigit, Bool.and_eq_true, decide_eq_true_eq, decide_eq_true_eq]
  exact Iff.rfl

lemma digitsValue_eq (cs : List Char) : digitsValue cs = Nat.ofDigitChars 10 cs 0 := rfl

@[simp] lemma digitsValue_digits (n : Nat) : digitsValue (digits n) = n :=
  Nat.ofDigitChars_ten_toDigits

lemma isDigit_of_mem_digits {n : Nat} {c : Char} (h : c ∈ digits n) : isDigit c = true :=
  Nat.isDigit_of_mem_toDigits (by decide) (by decide) h

@[simp] lemma digits_ne_nil (n : Nat) : digits n ≠ [] :=
  Nat.toDigits_ne_nil

/-- The digits of a number start with one. -/
lemma exists_digits_eq_cons (n : Nat) : ∃ d ds, digits n = d :: ds ∧ isDigit d = true := by
  obtain ⟨d, ds, digits_eq⟩ := List.exists_cons_of_ne_nil (digits_ne_nil n)
  exact ⟨d, ds, digits_eq, isDigit_of_mem_digits (digits_eq ▸ List.mem_cons_self)⟩

/-- A number with more than one digit does not start with a zero. -/
lemma head?_digits_ne_zero {n : Nat} (long : 1 < (digits n).length) :
    (digits n).head? ≠ some '0' := by
  induction n using Nat.strongRecOn with
  | ind n ih =>
    have unfolded : digits n = if n < 10 then [n.digitChar] else
        digits (n / 10) ++ [(n % 10).digitChar] := Nat.toDigits_eq_if (by decide)
    by_cases small : n < 10
    · rw [unfolded, if_pos small] at long
      exact absurd long (by simp)
    · rw [unfolded, if_neg small, List.head?_append, List.head?_eq_some_head (digits_ne_nil _),
        Option.some_or, ← List.head?_eq_some_head]
      by_cases two : 1 < (digits (n / 10)).length
      · exact ih (n / 10) (by omega) two
      · -- the first of two digits is the number of tens, which is not zero
        have single : n / 10 < 10 ^ 1 :=
          (Nat.length_toDigits_le_iff (by decide) (by decide)).mp (Nat.le_of_not_lt two)
        have digit : digits (n / 10) = [(n / 10).digitChar] := Nat.toDigits_of_lt_base single
        rw [digit, List.head?_cons, Ne, Option.some.injEq, Nat.digitChar_eq_zero]
        omega

lemma digits_eq_zero_of_head? {n : Nat} (zero : (digits n).head? = some '0') : digits n = ['0'] := by
  obtain ⟨d, ds, digits_eq, -⟩ := exists_digits_eq_cons n
  by_cases long : 1 < (digits n).length
  · exact absurd zero (head?_digits_ne_zero long)
  · rw [digits_eq, List.head?_cons, Option.some.injEq] at zero
    rw [digits_eq, List.length_cons, Nat.lt_add_left_iff_pos, Nat.not_lt, Nat.le_zero,
      List.length_eq_zero_iff] at long
    rw [digits_eq, zero, long]

/-! ### Zeros on the left -/

@[simp] lemma digitsValue_paddedDigits (width n : Nat) :
    digitsValue (paddedDigits width n) = n := by
  rw [digitsValue_eq, paddedDigits, Nat.ofDigitChars_append, Nat.ofDigitChars_replicate_zero,
    Nat.mul_zero]
  exact digitsValue_digits n

lemma isDigit_of_mem_paddedDigits {width n : Nat} {c : Char} (h : c ∈ paddedDigits width n) :
    isDigit c = true := by
  rcases List.mem_append.mp h with zero | digit
  · rw [List.eq_of_mem_replicate zero]
    rfl
  · exact isDigit_of_mem_digits digit

lemma length_paddedDigits {width n : Nat} (pos : 0 < width) (fits : n < 10 ^ width) :
    (paddedDigits width n).length = width := by
  have short : (digits n).length ≤ width :=
    (Nat.length_toDigits_le_iff (by decide) pos).mpr fits
  rw [paddedDigits, List.length_append, List.length_replicate]
  omega

end Quorum.Text
