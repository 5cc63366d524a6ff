import Mathlib.Algebra.Field.Rat
import Mathlib.Tactic.FieldSimp
import Mathlib.Tactic.Ring
import Quorum.Proofs.Text.Digits

/-!
# Decimal fractions

The number that digits before and after a point denote. Each digit after the point counts a tenth of
what it would count one place before, so that the digits after the point denote the number that they
denote as a whole, over a power of ten. Digits that are equally many are told apart by their number,
and so are digits of which the first is no zero.
-/

namespace Quorum.Text

variable {w f cs ds : List Char} {c d : Char}

/-- The number that the digits after a point denote. -/
def fractionValue : List Char → ℚ
  | [] => 0
  | c :: cs => (digitValue c + fractionValue cs) / 10

/-- The number that digits before and after a point denote. -/
def decimalValue (w f : List Char) : ℚ :=
  digitsValue w + fractionValue f

lemma digitsValue_append (cs ds : List Char) :
    digitsValue (cs ++ ds) = 10 ^ ds.length * digitsValue cs + digitsValue ds := by
  rw [digitsValue_eq, Nat.ofDigitChars_append, Nat.ofDigitChars_eq_ofDigitChars_zero]
  rfl

lemma digitsValue_cons (c : Char) (cs : List Char) :
    digitsValue (c :: cs) = 10 ^ cs.length * digitValue c + digitsValue cs := by
  have single : digitsValue [c] = digitValue c := by simp [digitsValue]
  rw [← List.singleton_append, digitsValue_append, single]

@[simp] lemma digitsValue_replicate_zero (n : Nat) : digitsValue (List.replicate n '0') = 0 := by
  rw [digitsValue_eq, Nat.ofDigitChars_replicate_zero, Nat.mul_zero]

/-- Each zero that fills up digits on the right makes ten times as much of them. -/
lemma digitsValue_rightpad (f : List Char) (d : Nat) :
    digitsValue (f.rightpad d '0') = digitsValue f * 10 ^ (d - f.length) := by
  rw [List.rightpad, digitsValue_append, digitsValue_replicate_zero, List.length_replicate,
    Nat.add_zero, Nat.mul_comm]

lemma fractionValue_eq (f : List Char) : fractionValue f = digitsValue f / 10 ^ f.length := by
  induction f with
  | nil => simp [fractionValue, digitsValue]
  | cons c f ih =>
    rw [fractionValue, ih, digitsValue_cons, List.length_cons]
    push_cast
    field_simp
    ring

@[simp] lemma fractionValue_replicate_zero (n : Nat) :
    fractionValue (List.replicate n '0') = 0 := by
  induction n with
  | zero => rfl
  | succ n ih => simp [List.replicate_succ, fractionValue, ih, digitValue]

/-- Zeros at the end of the digits after the point count nothing. -/
@[simp] lemma fractionValue_append_zeros (f : List Char) (n : Nat) :
    fractionValue (f ++ List.replicate n '0') = fractionValue f := by
  induction f with
  | nil => exact fractionValue_replicate_zero n
  | cons c f ih => rw [List.cons_append, fractionValue, fractionValue, ih]

/-- In units of which there are enough places for the digits after the point, the number is whole. -/
lemma decimalValue_mul_pow {d : Nat} (short : f.length ≤ d) : decimalValue w f * 10 ^ d
    = (digitsValue w * 10 ^ d + digitsValue f * 10 ^ (d - f.length) : Nat) := by
  have places : (10 : ℚ) ^ d = 10 ^ f.length * 10 ^ (d - f.length) := by
    rw [← pow_add, Nat.add_sub_cancel' short]
  rw [decimalValue, fractionValue_eq, places]
  push_cast
  rw [places]
  field_simp

/-! ### Digits told by their number -/

lemma digitValue_lt (digit : isDigit c = true) : digitValue c < 10 := by
  obtain ⟨low, high⟩ := isDigit_iff.mp digit
  have zero : '0'.toNat = 48 := rfl
  rw [digitValue]
  omega

lemma digitValue_inj (digit : isDigit c = true) (digit' : isDigit d = true)
    (same : digitValue c = digitValue d) : c = d := by
  obtain ⟨low, high⟩ := isDigit_iff.mp digit
  obtain ⟨low', high'⟩ := isDigit_iff.mp digit'
  have zero : '0'.toNat = 48 := rfl
  rw [digitValue, digitValue] at same
  exact Char.toNat_inj.mp (by omega)

lemma digitsValue_lt (digits : ∀ c ∈ cs, isDigit c = true) :
    digitsValue cs < 10 ^ cs.length := by
  induction cs with
  | nil => decide
  | cons c cs ih =>
    rw [List.forall_mem_cons] at digits
    have first := digitValue_lt digits.1
    have rest := ih digits.2
    rw [digitsValue_cons, List.length_cons, pow_succ]
    calc 10 ^ cs.length * digitValue c + digitsValue cs
        < 10 ^ cs.length * digitValue c + 10 ^ cs.length := by omega
      _ = 10 ^ cs.length * (digitValue c + 1) := by ring
      _ ≤ 10 ^ cs.length * 10 := Nat.mul_le_mul_left _ first

/-- How many whole places a number has, and what is left below one, are told by the number. -/
lemma place_inj {place m n r t : Nat} (below : r < place) (below' : t < place)
    (same : place * m + r = place * n + t) : m = n ∧ r = t := by
  have pos : 0 < place := Nat.zero_lt_of_lt below
  have quotients := congrArg (· / place) same
  rw [Nat.mul_add_div pos, Nat.mul_add_div pos, Nat.div_eq_of_lt below,
    Nat.div_eq_of_lt below'] at quotients
  obtain rfl : m = n := quotients
  exact ⟨rfl, Nat.add_left_cancel same⟩

/-- Of digits that are equally many no two denote the same number. -/
lemma digitsValue_inj (digits : ∀ c ∈ cs, isDigit c = true) (digits' : ∀ c ∈ ds, isDigit c = true)
    (same_length : cs.length = ds.length) (same : digitsValue cs = digitsValue ds) : cs = ds := by
  induction cs generalizing ds with
  | nil => exact (List.length_eq_zero_iff.mp same_length.symm).symm
  | cons c cs ih =>
    obtain ⟨d, ds, rfl⟩ := List.exists_cons_of_length_eq_add_one same_length.symm
    rw [List.forall_mem_cons] at digits digits'
    rw [List.length_cons, List.length_cons, Nat.add_right_cancel_iff] at same_length
    have rest := digitsValue_lt digits.2
    have rest' := digitsValue_lt digits'.2
    rw [digitsValue_cons, digitsValue_cons, same_length] at same
    rw [same_length] at rest
    obtain ⟨first, others⟩ := place_inj rest rest' same
    rw [digitValue_inj digits.1 digits'.1 first, ih digits.2 digits'.2 same_length others]

/-- No digits denote a number with fewer digits than those whose first is no zero. -/
lemma length_le_of_digitsValue_eq (digits : ∀ c ∈ cs, isDigit c = true) (ne_nil : cs ≠ [])
    (leading : ds.head? = some '0' → ds = ['0']) (digits' : ∀ c ∈ ds, isDigit c = true)
    (same : digitsValue cs = digitsValue ds) : ds.length ≤ cs.length := by
  by_contra long
  obtain ⟨d, ds, rfl⟩ := List.exists_cons_of_length_pos (Nat.zero_lt_of_lt (Nat.lt_of_not_le long))
  rw [List.forall_mem_cons] at digits'
  rw [List.length_cons, Nat.not_le, Nat.lt_add_one_iff] at long
  have several : ds ≠ [] := by
    rintro rfl
    exact ne_nil (List.length_eq_zero_iff.mp (Nat.le_zero.mp long))
  have first : 0 < digitValue d := by
    refine Nat.pos_of_ne_zero fun zero => several ?_
    have same : d = '0' := digitValue_inj digits'.1 (by decide) (by rw [zero]; rfl)
    have alone := leading (by rw [same]; rfl)
    exact (List.cons.inj alone).2
  have small : digitsValue cs < 10 ^ ds.length :=
    Nat.lt_of_lt_of_le (digitsValue_lt digits) (Nat.pow_le_pow_right (by decide) long)
  have great : 10 ^ ds.length ≤ digitsValue (d :: ds) := by
    rw [digitsValue_cons]
    exact Nat.le_add_right_of_le (Nat.le_mul_of_pos_right _ first)
  exact Nat.not_lt.mpr great (same ▸ small)

end Quorum.Text
