import Mathlib.Data.List.Induction
import Quorum.Amount
import Quorum.Proofs.Text.Decimal

/-!
# The text of an amount

An amount is shown exactly, and in the only way that leaves no zero to drop: digits, a point and
digits, with neither a zero before the whole part nor one after the fraction, unless it is the only
digit there.
-/

namespace Quorum.Amount

open Text (decimalValue digits digitsValue fractionValue isDigit paddedDigits)

variable {w w' f f' ds : List Char} {c : Char} {m : Nat}

/-! ### Zeros at the end -/

@[simp] lemma dropTrailingZeros_append_zero (ds : List Char) :
    dropTrailingZeros (ds ++ ['0']) = dropTrailingZeros ds := by
  simp [dropTrailingZeros]

lemma dropTrailingZeros_append_ne_zero (ds : List Char) (ne_zero : c ≠ '0') :
    dropTrailingZeros (ds ++ [c]) = ds ++ [c] := by
  simp [dropTrailingZeros, ne_zero]

@[simp] lemma dropTrailingZeros_append_replicate (ds : List Char) (n : Nat) :
    dropTrailingZeros (ds ++ List.replicate n '0') = dropTrailingZeros ds := by
  induction n with
  | zero => rw [List.replicate_zero, List.append_nil]
  | succ n ih => rw [List.replicate_succ', ← List.append_assoc, dropTrailingZeros_append_zero, ih]

/-- Dropping leaves the digits that have no zero at their end, unless it is the only one, and that
nothing but zeros follow. -/
lemma dropTrailingZeros_eq_iff (ne_nil : ds ≠ []) : dropTrailingZeros ds = f ↔
    (∃ n, ds = f ++ List.replicate n '0') ∧ f ≠ [] ∧ (f.getLast? = some '0' → f = ['0']) := by
  constructor
  · rintro rfl
    induction ds using List.reverseRecOn with
    | nil => exact absurd rfl ne_nil
    | append_singleton ds c ih =>
      by_cases zero : c = '0'
      · subst zero
        rw [dropTrailingZeros_append_zero]
        by_cases alone : ds = []
        · subst alone
          exact ⟨⟨0, rfl⟩, by decide, fun _ => rfl⟩
        · obtain ⟨⟨n, split⟩, kept⟩ := ih alone
          refine ⟨⟨n + 1, ?_⟩, kept⟩
          rw [List.replicate_succ', ← List.append_assoc, ← split]
      · rw [dropTrailingZeros_append_ne_zero ds zero]
        refine ⟨⟨0, (List.append_nil _).symm⟩, by simp, fun last => absurd ?_ zero⟩
        simpa using last
  · rintro ⟨⟨n, rfl⟩, some, trailing⟩
    rw [dropTrailingZeros_append_replicate]
    obtain ⟨g, c, rfl⟩ := List.eq_nil_or_concat' f |>.resolve_left some
    by_cases zero : c = '0'
    · rw [trailing (by simp [zero])]
      rfl
    · exact dropTrailingZeros_append_ne_zero g zero

/-! ### Texts without a zero to drop -/

/-- The parts before and after a point, with at most `m` digits after it: either is digits, of which
none is a zero that could be dropped. -/
structure Canonical (m : Nat) (w f : List Char) : Prop where
  whole : ∀ c ∈ w, isDigit c = true
  whole_ne_nil : w ≠ []
  leading : w.head? = some '0' → w = ['0']
  fraction : ∀ c ∈ f, isDigit c = true
  fraction_ne_nil : f ≠ []
  trailing : f.getLast? = some '0' → f = ['0']
  short : f.length ≤ m

/-- The digits after the point, filled up with zeros on the right. -/
def fill (m : Nat) (f : List Char) : List Char :=
  f ++ List.replicate (m - f.length) '0'

namespace Canonical

lemma length_fill (canonical : Canonical m w f) : (fill m f).length = m := by
  have short := canonical.short
  simp [fill, short]

lemma isDigit_fill (canonical : Canonical m w f) : ∀ c ∈ fill m f, isDigit c = true := by
  intro c mem
  rcases List.mem_append.mp mem with digit | zero
  · exact canonical.fraction c digit
  · rw [List.eq_of_mem_replicate zero]
    rfl

lemma dropTrailingZeros_fill (canonical : Canonical m w f) : dropTrailingZeros (fill m f) = f := by
  have ne_nil : fill m f ≠ [] := List.append_ne_nil_of_left_ne_nil canonical.fraction_ne_nil _
  exact (dropTrailingZeros_eq_iff ne_nil).mpr
    ⟨⟨_, rfl⟩, canonical.fraction_ne_nil, canonical.trailing⟩

/-- In units of which there are `10 ^ m` in one whole, the digits denote whole ones and units. -/
lemma decimalValue_mul_pow (canonical : Canonical m w f) : decimalValue w f * 10 ^ m
    = (10 ^ m * digitsValue w + digitsValue (fill m f) : Nat) := by
  have filled : decimalValue w f = decimalValue w (fill m f) := by
    rw [decimalValue, decimalValue, fill, Text.fractionValue_append_zeros]
  have length := canonical.length_fill
  rw [filled, Text.decimalValue_mul_pow length.le, length, Nat.sub_self, pow_zero, Nat.mul_one,
    Nat.mul_comm]

lemma point_notMem (canonical : Canonical m w f) : '.' ∉ w ∧ '.' ∉ f := by
  constructor
  · exact fun point => absurd (canonical.whole _ point) (by decide)
  · exact fun point => absurd (canonical.fraction _ point) (by decide)

/-- No two such texts denote the same number. -/
lemma inj (canonical : Canonical m w f) (canonical' : Canonical m w' f')
    (same : decimalValue w f = decimalValue w' f') : w = w' ∧ f = f' := by
  have units : 10 ^ m * digitsValue w + digitsValue (fill m f)
      = 10 ^ m * digitsValue w' + digitsValue (fill m f') := by
    refine Nat.cast_injective (R := ℚ) ?_
    rw [← canonical.decimalValue_mul_pow, ← canonical'.decimalValue_mul_pow, same]
  have length := canonical.length_fill
  have length' := canonical'.length_fill
  have below := Text.digitsValue_lt canonical.isDigit_fill
  have below' := Text.digitsValue_lt canonical'.isDigit_fill
  rw [length] at below
  rw [length'] at below'
  obtain ⟨wholes, places⟩ := Text.place_inj below below' units
  have fractions : fill m f = fill m f' :=
    Text.digitsValue_inj canonical.isDigit_fill canonical'.isDigit_fill
      (length.trans length'.symm) places
  constructor
  · refine Text.digitsValue_inj canonical.whole canonical'.whole (Nat.le_antisymm ?_ ?_) wholes
    · exact Text.length_le_of_digitsValue_eq canonical'.whole canonical'.whole_ne_nil
        canonical.leading canonical.whole wholes.symm
    · exact Text.length_le_of_digitsValue_eq canonical.whole canonical.whole_ne_nil
        canonical'.leading canonical'.whole wholes
  · rw [← canonical.dropTrailingZeros_fill, fractions, canonical'.dropTrailingZeros_fill]

end Canonical

/-! ### The parts of the text -/

/-- The digits before the point. -/
def wholeDigits (a : Amount) (d : Nat) : List Char :=
  digits (a.units / 10 ^ d)

/-- The digits after the point. -/
def fractionDigits (a : Amount) (d : Nat) : List Char :=
  dropTrailingZeros (paddedDigits d (a.units % 10 ^ d))

lemma toList_format (a : Amount) (d : Nat) :
    (a.format d).toList = a.wholeDigits d ++ '.' :: a.fractionDigits d := by
  rw [format, String.toList_ofList]
  by_cases none : d = 0
  · subst none
    rw [if_pos rfl, fractionDigits, pow_zero, Nat.mod_one]
    rfl
  · rw [if_neg none]
    rfl

lemma length_paddedDigits_mod (d n : Nat) : (paddedDigits d (n % 10 ^ d)).length = max 1 d := by
  cases d with
  | zero =>
    rw [pow_zero, Nat.mod_one]
    rfl
  | succ d =>
    rw [Text.length_paddedDigits (Nat.succ_pos d) (Nat.mod_lt _ (Nat.pow_pos (by decide)))]
    omega

lemma exists_paddedDigits_eq (a : Amount) (d : Nat) :
    (∃ n, paddedDigits d (a.units % 10 ^ d) = a.fractionDigits d ++ List.replicate n '0') ∧
    a.fractionDigits d ≠ [] ∧
    ((a.fractionDigits d).getLast? = some '0' → a.fractionDigits d = ['0']) := by
  refine (dropTrailingZeros_eq_iff fun none => ?_).mp rfl
  have length := length_paddedDigits_mod d a.units
  rw [none, List.length_nil] at length
  omega

lemma canonical_format (a : Amount) (d : Nat) :
    Canonical (max 1 d) (a.wholeDigits d) (a.fractionDigits d) := by
  obtain ⟨⟨n, padded⟩, ne_nil, trailing⟩ := a.exists_paddedDigits_eq d
  refine ⟨fun c => Text.isDigit_of_mem_digits, Text.digits_ne_nil _, Text.digits_eq_zero_of_head?,
    ?_, ne_nil, trailing, ?_⟩
  · intro c mem
    have there : c ∈ paddedDigits d (a.units % 10 ^ d) := by
      rw [padded]
      exact List.mem_append_left _ mem
    exact Text.isDigit_of_mem_paddedDigits there
  · rw [← length_paddedDigits_mod d a.units, padded, List.length_append]
    exact Nat.le_add_right _ _

lemma decimalValue_format (a : Amount) (d : Nat) :
    decimalValue (a.wholeDigits d) (a.fractionDigits d) = a.units / 10 ^ d := by
  obtain ⟨⟨n, padded⟩, -⟩ := a.exists_paddedDigits_eq d
  have fraction : fractionValue (a.fractionDigits d) = (a.units % 10 ^ d : Nat) / 10 ^ d := by
    rw [← Text.fractionValue_append_zeros _ n, ← padded, Text.fractionValue_eq,
      Text.digitsValue_paddedDigits, length_paddedDigits_mod]
    cases d with
    | zero => rw [pow_zero, Nat.mod_one, Nat.cast_zero, zero_div, zero_div]
    | succ d => rw [max_eq_right (Nat.succ_pos d)]
  have whole : (a.units : ℚ) = 10 ^ d * (a.units / 10 ^ d : Nat) + (a.units % 10 ^ d : Nat) := by
    exact_mod_cast (Nat.div_add_mod a.units (10 ^ d)).symm
  rw [decimalValue, fraction, wholeDigits, Text.digitsValue_digits]
  conv_rhs => rw [whole]
  field_simp

/-- The text of an amount is the one that has no zero to drop and denotes just this many units; so
amounts are told apart by their texts. -/
theorem format_eq_iff_canonical (a : Amount) (d : Nat) :
    (∃ w f, (a.format d).toList = w ++ '.' :: f) ∧
    (∀ w f, (a.format d).toList = w ++ '.' :: f ↔
      Canonical (max 1 d) w f ∧ decimalValue w f = a.units / 10 ^ d) ∧
    ∀ b : Amount, a.format d = b.format d ↔ a = b := by
  have parts (b : Amount) (w f : List Char) : (b.format d).toList = w ++ '.' :: f ↔
      Canonical (max 1 d) w f ∧ decimalValue w f = b.units / 10 ^ d := by
    have canonical := b.canonical_format d
    rw [toList_format]
    constructor
    · intro same
      obtain ⟨rfl, -, rfl⟩ := (List.append_cons_inj_of_notMem canonical.point_notMem.1
        canonical.point_notMem.2).mp same
      exact ⟨canonical, b.decimalValue_format d⟩
    · rintro ⟨canonical', value⟩
      obtain ⟨rfl, rfl⟩ := canonical'.inj canonical (value.trans (b.decimalValue_format d).symm)
      rfl
  refine ⟨⟨_, _, a.toList_format d⟩, parts a, fun b => ⟨fun same => ?_, congrArg (format · d)⟩⟩
  have value := ((parts b _ _).mp (same ▸ a.toList_format d)).2
  have place : (10 : ℚ) ^ d ≠ 0 := pow_ne_zero d (by decide)
  rw [a.decimalValue_format d, div_left_inj' place] at value
  exact Amount.ext (Nat.cast_injective value)

end Quorum.Amount
