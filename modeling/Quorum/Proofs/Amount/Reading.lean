import Mathlib.Data.List.TakeWhile
import Mathlib.Tactic.NormNum
import Quorum.Amount
import Quorum.Proofs.Text.Decimal
import Quorum.Proofs.Text.Trim

/-!
# What a text denotes as an amount

A text denotes an amount if it is digits with at most one point between them, no more of them after
the point than the unit has places, and the number is below `2 ^ 128` in that unit. Reading answers
exactly that number, or the first of these conditions that fails. The number is put together in
steps, each of which may find it too great; together they ask no more than whether the sum is.
-/

namespace Quorum.Amount

open Text (Trims decimalValue digitsValue isDigit)

variable {t w f : List Char} {d : Nat}

/-! ### Parts -/

/-- The parts of a text before and after its first point; without a point there is no second part. -/
def Splits (t w f : List Char) : Prop :=
  '.' ∉ w ∧ (t = w ++ '.' :: f ∨ t = w ∧ f = [])

lemma splits_iff : Splits t w f ↔ splitPoint t = (w, f) := by
  have plain {w : List Char} (no_point : '.' ∉ w) : ∀ c ∈ w, decide (c ≠ '.') = true := by
    intro c mem
    exact decide_eq_true fun same => no_point (same ▸ mem)
  constructor
  · rintro ⟨no_point, rfl | ⟨rfl, rfl⟩⟩
    · rw [splitPoint, List.takeWhile_append_of_pos (plain no_point),
        List.dropWhile_append_of_pos (plain no_point)]
      simp
    · rw [splitPoint, List.takeWhile_eq_self_iff.mpr (plain no_point),
        List.dropWhile_eq_nil_iff.mpr (plain no_point)]
      rfl
  · intro split
    obtain ⟨rfl, rfl⟩ := Prod.mk.inj split
    have whole : t = t.takeWhile (· ≠ '.') ++ t.dropWhile (· ≠ '.') :=
      List.takeWhile_append_dropWhile.symm
    refine ⟨fun point => ?_, ?_⟩
    · simpa using List.all_eq_true.mp List.all_takeWhile _ point
    · rcases rest : t.dropWhile (· ≠ '.') with _ | ⟨c, f⟩
      · exact .inr ⟨by rw [rest, List.append_nil] at whole; exact whole, rfl⟩
      · have stopped := List.head?_dropWhile_not (· ≠ '.') t
        rw [rest] at stopped
        obtain rfl : c = '.' := by simpa using stopped
        exact .inl (by rw [rest] at whole; exact whole)

/-- The parts are digits, at least one of them. -/
def Numeral (w f : List Char) : Prop :=
  ¬ (w = [] ∧ f = []) ∧ ∀ c ∈ w ++ f, isDigit c = true

/-! ### Answers -/

/-- What the parts of a text denote in units of which there are `10 ^ d` in one whole. -/
inductive Denotes (t w f : List Char) (d : Nat) : Except Error Amount → Prop
  | empty (none : t = []) : Denotes t w f d (.error .empty)
  | notNumber (some : t ≠ []) (not_numeral : ¬ Numeral w f) :
      Denotes t w f d (.error (.notNumber (String.ofList t)))
  | tooManyDecimals (numeral : Numeral w f) (long : d < f.length) :
      Denotes t w f d (.error (.tooManyDecimals f.length d))
  | overflow (numeral : Numeral w f) (short : f.length ≤ d)
      (great : 38 < d ∨ 2 ^ 128 ≤ decimalValue w f * 10 ^ d) :
      Denotes t w f d (.error (.overflow (String.ofList t)))
  | amount {a : Amount} (numeral : Numeral w f) (short : f.length ≤ d) (scale : d ≤ 38)
      (value : (a.units : ℚ) = decimalValue w f * 10 ^ d) : Denotes t w f d (.ok a)

lemma Numeral.ne_nil (numeral : Numeral w f) (split : Splits t w f) : t ≠ [] := by
  rintro rfl
  obtain ⟨_, point | ⟨none, no_fraction⟩⟩ := split
  · simp at point
  · exact numeral.1 ⟨none.symm, no_fraction⟩

lemma numeral_iff : Numeral w f ↔ ¬ ((w = [] ∧ f = []) ∨ !w.all isDigit ∨ !f.all isDigit) := by
  simp [Numeral, or_imp, forall_and]

/-- With more than thirty-eight decimals not even one whole is an amount. -/
lemma amountBound_le_pow_iff : amountBound ≤ 10 ^ d ↔ 38 < d := by
  constructor
  · intro le
    by_contra small
    have scale : 10 ^ d ≤ 10 ^ 38 := Nat.pow_le_pow_right (by decide) (Nat.le_of_not_lt small)
    exact absurd (Nat.le_trans le scale) (by decide)
  · intro great
    have scale : 10 ^ 39 ≤ 10 ^ d := Nat.pow_le_pow_right (by decide) great
    exact Nat.le_trans (by decide) scale

lemma ofNat?_eq_some_iff {n : Nat} {a : Amount} : ofNat? n = some a ↔ a.units = n := by
  unfold ofNat?
  split
  · rw [Option.some.injEq, Amount.ext_iff]
    exact eq_comm
  · rename_i great
    refine iff_of_false (Option.some_ne_none a).symm fun same => great ?_
    exact same ▸ a.lt_bound

lemma ofNat?_eq_none_iff {n : Nat} : ofNat? n = none ↔ amountBound ≤ n := by
  unfold ofNat?
  split
  · rename_i fits
    exact iff_of_false (Option.some_ne_none _) (Nat.not_le.mpr fits)
  · rename_i great
    exact iff_of_true rfl (Nat.le_of_not_lt great)

/-! ### Steps -/

/-- Whether a number is an amount need not be asked if that is asked of a greater one afterwards. -/
lemma ofNat?_bind {m n : Nat} {next : Amount → Option Amount} (le : m ≤ n)
    (later : ∀ a : Amount, a.units = m → next a = ofNat? n) : (ofNat? m).bind next = ofNat? n := by
  cases found : ofNat? m with
  | some a => exact later a (ofNat?_eq_some_iff.mp found)
  | none =>
    have great : amountBound ≤ n := Nat.le_trans (ofNat?_eq_none_iff.mp found) le
    exact (ofNat?_eq_none_iff.mpr great).symm

/-- A part without digits is zero, which is also what no digits denote. -/
lemma ite_ofDigits? {part ds : List Char} (zero : part = [] → digitsValue ds = 0) :
    (if part = [] then some 0 else ofDigits? ds) = ofNat? (digitsValue ds) := by
  split
  · rename_i none
    rw [zero none]
    rfl
  · rfl

/-- All steps come to one check of the sum, once the unit is an amount: what is too great on the way
makes the sum too great. -/
lemma ofParts?_eq (w f : List Char) (d : Nat) : ofParts? w f d =
    if 38 < d then none
    else ofNat? (digitsValue w * 10 ^ d + digitsValue f * 10 ^ (d - f.length)) := by
  have wholes_of : (if w = [] then some 0 else ofDigits? w) = ofNat? (digitsValue w) :=
    ite_ofDigits? fun none => none ▸ rfl
  have rest_of : (if f = [] then some 0 else ofDigits? (f.rightpad d '0'))
      = ofNat? (digitsValue f * 10 ^ (d - f.length)) := by
    rw [← Text.digitsValue_rightpad]
    refine ite_ofDigits? fun none => ?_
    rw [none, Text.digitsValue_rightpad]
    exact Nat.zero_mul _
  simp only [ofParts?, wholes_of, rest_of, Option.bind_eq_bind, Nat.pow_eq]
  cases unit_eq : ofNat? (10 ^ d) with
  | none =>
    have great := amountBound_le_pow_iff.mp (ofNat?_eq_none_iff.mp unit_eq)
    rw [if_pos great, Option.bind_none]
  | some unit =>
    have units := ofNat?_eq_some_iff.mp unit_eq
    have fits : ¬ 38 < d := fun great =>
      Nat.not_le.mpr (units ▸ unit.lt_bound) (amountBound_le_pow_iff.mpr great)
    have wholes_le : digitsValue w ≤ digitsValue w * 10 ^ d :=
      Nat.le_mul_of_pos_right _ (Nat.pow_pos (by decide))
    rw [if_neg fits, Option.bind_some]
    -- each step is at most the sum, so that the check of the sum stands for its own
    refine ofNat?_bind (Nat.le_add_right_of_le wholes_le) fun wholes wholes_eq => ?_
    refine ofNat?_bind (Nat.le_add_left _ _) fun rest rest_eq => ?_
    rw [mul?, wholes_eq, units]
    refine ofNat?_bind (Nat.le_add_right _ _) fun product product_eq => ?_
    rw [add?, product_eq, rest_eq]

lemma ofParts?_eq_some_iff {a : Amount} : ofParts? w f d = some a ↔
    d ≤ 38 ∧ a.units = digitsValue w * 10 ^ d + digitsValue f * 10 ^ (d - f.length) := by
  rw [ofParts?_eq]
  split
  · rename_i great
    exact iff_of_false (Option.some_ne_none a).symm fun h => Nat.not_le.mpr great h.1
  · rename_i scale
    rw [ofNat?_eq_some_iff]
    exact (and_iff_right (Nat.le_of_not_lt scale)).symm

lemma ofParts?_eq_none_iff : ofParts? w f d = none ↔
    38 < d ∨ amountBound ≤ digitsValue w * 10 ^ d + digitsValue f * 10 ^ (d - f.length) := by
  rw [ofParts?_eq]
  split
  · rename_i great
    exact iff_of_true rfl (.inl great)
  · rename_i scale
    rw [ofNat?_eq_none_iff]
    exact (or_iff_right scale).symm

/-! ### Reading -/

/-- Reading a text comes down to its parts. -/
lemma parse_of_parts {s : String} (trimmed : Trims s.toList t) (split : Splits t w f) (d : Nat) :
    parse s d = if t = [] then .error .empty
      else if (w = [] ∧ f = []) ∨ !w.all isDigit ∨ !f.all isDigit then
        .error (.notNumber (String.ofList t))
      else if d < f.length then .error (.tooManyDecimals f.length d)
      else (ofParts? w f d).elim (.error (.overflow (String.ofList t))) .ok := by
  rw [parse, Text.trims_iff.mp trimmed]
  simp only [splits_iff.mp split]

lemma denotes_parse {s : String} (trimmed : Trims s.toList t) (split : Splits t w f) (d : Nat) :
    Denotes t w f d (parse s d) := by
  have value (short : f.length ≤ d) := Text.decimalValue_mul_pow (w := w) short
  rw [parse_of_parts trimmed split]
  by_cases none : t = []
  · rw [if_pos none]
    exact .empty none
  rw [if_neg none]
  by_cases numeral : Numeral w f
  · rw [if_neg (numeral_iff.mp numeral)]
    by_cases long : d < f.length
    · rw [if_pos long]
      exact .tooManyDecimals numeral long
    rw [if_neg long]
    have short := Nat.le_of_not_lt long
    cases steps : ofParts? w f d with
    | some a =>
      obtain ⟨scale, units_eq⟩ := ofParts?_eq_some_iff.mp steps
      exact .amount numeral short scale (by rw [value short, units_eq])
    | none =>
      refine .overflow numeral short ((ofParts?_eq_none_iff.mp steps).imp_right fun great => ?_)
      rw [value short]
      exact_mod_cast great
  · rw [if_pos (not_not.mp fun fine => numeral (numeral_iff.mpr fine))]
    exact .notNumber none numeral

lemma Denotes.parse_eq {s : String} {r : Except Error Amount} (denotes : Denotes t w f d r)
    (trimmed : Trims s.toList t) (split : Splits t w f) : parse s d = r := by
  have value (short : f.length ≤ d) := Text.decimalValue_mul_pow (w := w) short
  rw [parse_of_parts trimmed split]
  cases denotes with
  | empty none => rw [if_pos none]
  | notNumber some not_numeral =>
    rw [if_neg some, if_pos (not_not.mp fun fine => not_numeral (numeral_iff.mpr fine))]
  | tooManyDecimals numeral long =>
    rw [if_neg (numeral.ne_nil split), if_neg (numeral_iff.mp numeral), if_pos long]
  | overflow numeral short great =>
    rw [value short] at great
    have steps : ofParts? w f d = none :=
      ofParts?_eq_none_iff.mpr (great.imp_right fun great => by exact_mod_cast great)
    rw [if_neg (numeral.ne_nil split), if_neg (numeral_iff.mp numeral),
      if_neg (Nat.not_lt.mpr short), steps, Option.elim_none]
  | @amount a numeral short scale units_eq =>
    rw [value short] at units_eq
    have steps : ofParts? w f d = some a :=
      ofParts?_eq_some_iff.mpr ⟨scale, Nat.cast_injective units_eq⟩
    rw [if_neg (numeral.ne_nil split), if_neg (numeral_iff.mp numeral),
      if_neg (Nat.not_lt.mpr short), steps, Option.elim_some]

/-- A text is read as what its parts denote, and as nothing else: the blanks around it are taken
away, the rest is split at its first point, and of all answers there is just the one that is right. -/
theorem parse_eq_iff_denotes {s : String} (trimmed : Trims s.toList t) (split : Splits t w f)
    (d : Nat) (r : Except Error Amount) : parse s d = r ↔ Denotes t w f d r := by
  constructor
  · rintro rfl
    exact denotes_parse trimmed split d
  · intro denotes
    exact denotes.parse_eq trimmed split

/-- With three decimals the greatest amount is read from a text with blanks and zeros around it, and
one more unit is too much. -/
theorem greatest_amount_read :
    Trims "\u00a0000340282366920938463463374607431768211.455 ".toList
      "000340282366920938463463374607431768211.455".toList ∧
    Splits "000340282366920938463463374607431768211.455".toList
      "000340282366920938463463374607431768211".toList "455".toList ∧
    parse "\u00a0000340282366920938463463374607431768211.455 " 3 = .ok ⟨2 ^ 128 - 1, by decide⟩ ∧
    parse "340282366920938463463374607431768211.456" 3
      = .error (.overflow "340282366920938463463374607431768211.456") := by
  have trimmed : Trims "\u00a0000340282366920938463463374607431768211.455 ".toList
      "000340282366920938463463374607431768211.455".toList := Text.trims_iff.mpr (by decide)
  have split : Splits "000340282366920938463463374607431768211.455".toList
      "000340282366920938463463374607431768211".toList "455".toList := splits_iff.mpr (by decide)
  have trimmed' : Trims "340282366920938463463374607431768211.456".toList
      "340282366920938463463374607431768211.456".toList := Text.trims_iff.mpr (by decide)
  have split' : Splits "340282366920938463463374607431768211.456".toList
      "340282366920938463463374607431768211".toList "456".toList := splits_iff.mpr (by decide)
  refine ⟨trimmed, split, (parse_eq_iff_denotes trimmed split 3 _).mpr ?_,
    (parse_eq_iff_denotes trimmed' split' 3 _).mpr ?_⟩
  · refine .amount (numeral_iff.mpr (by decide)) (by decide) (by decide) ?_
    rw [Text.decimalValue_mul_pow (by decide)]
    exact congrArg _ (by decide)
  · refine .overflow (numeral_iff.mpr (by decide)) (by decide) (.inr ?_)
    rw [Text.decimalValue_mul_pow (by decide)]
    exact_mod_cast (by decide : 2 ^ 128 ≤ digitsValue
      "340282366920938463463374607431768211".toList * 10 ^ 3 + digitsValue "456".toList * 10 ^ 0)

end Quorum.Amount
