import Quorum.Command
import Quorum.Proofs.Amount.Format
import Quorum.Proofs.Amount.Reading

/-!
# Amounts read back

What is shown of an amount is read as this amount, in units with any number of places but none:
there the one zero that is always shown after the point is more than reading allows.
-/

namespace Quorum.Amount

open Text (Trims isDigit)

lemma isDigit_of_mem_format (a : Amount) (d : Nat) :
    ∀ c ∈ a.wholeDigits d ++ a.fractionDigits d, isDigit c = true := by
  have canonical := a.canonical_format d
  exact List.forall_mem_append.mpr ⟨canonical.whole, canonical.fraction⟩

lemma numeral_format (a : Amount) (d : Nat) : Numeral (a.wholeDigits d) (a.fractionDigits d) :=
  ⟨fun none => (a.canonical_format d).whole_ne_nil none.1, a.isDigit_of_mem_format d⟩

lemma splits_format (a : Amount) (d : Nat) :
    Splits (a.format d).toList (a.wholeDigits d) (a.fractionDigits d) :=
  ⟨(a.canonical_format d).point_notMem.1, .inl (a.toList_format d)⟩

lemma trims_format (a : Amount) (d : Nat) : Trims (a.format d).toList (a.format d).toList := by
  refine Text.trims_iff.mpr (Text.trim_of_all_not_blank fun c mem => ?_)
  rw [toList_format, List.mem_append, List.mem_cons, or_left_comm, ← List.mem_append] at mem
  rcases mem with rfl | digit
  · decide
  · exact Text.isBlank_of_isDigit (a.isDigit_of_mem_format d c digit)

lemma parse_format (a : Amount) {d : Nat} (pos : 0 < d) (scale : d ≤ 38) :
    parse (a.format d) d = .ok a := by
  have short := (a.canonical_format d).short
  rw [max_eq_right pos] at short
  have place : (10 : ℚ) ^ d ≠ 0 := pow_ne_zero d (by decide)
  have value : (a.units : ℚ) = Text.decimalValue (a.wholeDigits d) (a.fractionDigits d) * 10 ^ d := by
    rw [a.decimalValue_format d, div_mul_cancel₀ _ place]
  have denotes := Denotes.amount (t := (a.format d).toList) (a.numeral_format d) short scale value
  exact denotes.parse_eq (a.trims_format d) (a.splits_format d)

/-- Without places even the zero after the point is one digit too many. -/
lemma parse_format_zero (a : Amount) : parse (a.format 0) 0 = .error (.tooManyDecimals 1 0) := by
  have canonical := a.canonical_format 0
  have single : (a.fractionDigits 0).length = 1 :=
    Nat.le_antisymm canonical.short (List.length_pos_iff.mpr canonical.fraction_ne_nil)
  have denotes := Denotes.tooManyDecimals (t := (a.format 0).toList) (d := 0) (a.numeral_format 0)
    (by rw [single]; decide)
  rw [single] at denotes
  exact denotes.parse_eq (a.trims_format 0) (a.splits_format 0)

/-- Every amount is read back from its text, at each number of places that leaves room for one digit
after the point; the native currency has such a number. Without places nothing is read back. -/
theorem format_read_back (a : Amount) :
    (∀ d, 0 < d → d ≤ 38 → parse (a.format d) d = .ok a) ∧
    parse (a.format 0) 0 = .error (.tooManyDecimals 1 0) ∧
    parseNative a.formatNative = .ok a ∧ Command.readAmount a.formatNative = .ok a := by
  have native : parseNative a.formatNative = .ok a := a.parse_format (by decide) (by decide)
  refine ⟨fun d pos scale => a.parse_format pos scale, a.parse_format_zero, native, ?_⟩
  rw [Command.readAmount, native]
  rfl

/-- The greatest amount is read back from a text with one digit before the point and thirty-eight
digits after it. -/
theorem greatest_amount_read_back :
    let a : Amount := ⟨2 ^ 128 - 1, by decide⟩
    a.format 38 = "3.40282366920938463463374607431768211455" ∧ 0 < 38 ∧ 38 ≤ 38 ∧
      parse (a.format 38) 38 = .ok a :=
  ⟨by decide +kernel, by decide, le_rfl, (format_read_back _).1 38 (by decide) le_rfl⟩

/-- Without places an amount is shown with a point and a zero, which are not read there. -/
theorem whole_units_not_read_back :
    (⟨42, by decide⟩ : Amount).format 0 = "42.0" ∧
    parse "42.0" 0 = .error (.tooManyDecimals 1 0) ∧
    ¬ ∀ (a : Amount) (d : Nat), d ≤ 38 → parse (a.format d) d = .ok a := by
  have shown : (⟨42, by decide⟩ : Amount).format 0 = "42.0" := by decide
  have refused : parse "42.0" 0 = .error (.tooManyDecimals 1 0) := rfl
  refine ⟨shown, refused, fun read_back => ?_⟩
  have read := read_back ⟨42, by decide⟩ 0 (by decide)
  rw [shown, refused] at read
  contradiction

end Quorum.Amount
