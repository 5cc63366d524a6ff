import Mathlib.Tactic.Lemma
import Quorum.Proofs.Text.Digits
import Quorum.Proofs.Text.Trim
import Quorum.Time.Reader

/-!
# Written time stamps are read

The stored form of an instant is read as that instant: every part of it is where the reader looks
for it, and as universal time is written, nothing is taken away for the zone.
-/

namespace Quorum.Time

open Text (digitsValue isBlank isBlank_of_isDigit isDigit paddedDigits)

namespace Reader

variable {ds rest : List Char} {c : Char} {width n : Nat}

/-! ### Numbers and marks -/

lemma number_eq_ok (taken : ((ds ++ rest).takeWhile isDigit).take width = ds) (some : ds ≠ [])
    (small : digitsValue ds < UInt64.size / 2) :
    number width (ds ++ rest) = .ok (digitsValue ds, rest) := by
  have text : ds ++ rest ≠ [] := by simp [some]
  simp only [number, taken]
  rw [if_neg text, if_neg some, if_neg (Nat.not_le.mpr small), List.drop_left]

/-- Digits that fill the width are read as a number, whatever follows. -/
lemma number_of_length (digits : ∀ c ∈ ds, isDigit c = true) (some : ds ≠ [])
    (full : ds.length = width) (small : digitsValue ds < UInt64.size / 2) :
    number width (ds ++ rest) = .ok (digitsValue ds, rest) := by
  refine number_eq_ok ?_ some small
  rw [List.takeWhile_append_of_pos digits, ← full, List.take_left]

/-- Digits are read as a number up to something else. -/
lemma number_of_stop (digits : ∀ c ∈ ds, isDigit c = true) (some : ds ≠ [])
    (stop : ∀ c ∈ rest.head?, isDigit c = false) (short : ds.length ≤ width)
    (small : digitsValue ds < UInt64.size / 2) :
    number width (ds ++ rest) = .ok (digitsValue ds, rest) := by
  refine number_eq_ok ?_ some small
  have none : rest.takeWhile isDigit = [] := by
    cases rest with
    | nil => rfl
    | cons c rest => simp [stop c rfl]
  rw [List.takeWhile_append_of_pos digits, none, List.append_nil, List.take_of_length_le short]

lemma exists_paddedDigits_eq_cons (width n : Nat) :
    ∃ d ds, paddedDigits width n = d :: ds ∧ isDigit d = true := by
  have some : paddedDigits width n ≠ [] := by simp [paddedDigits]
  obtain ⟨d, ds, shape⟩ := List.exists_cons_of_ne_nil some
  exact ⟨d, ds, shape, Text.isDigit_of_mem_paddedDigits (shape ▸ List.mem_cons_self)⟩

lemma trimStart_paddedDigits :
    Text.trimStart (paddedDigits width n ++ rest) = paddedDigits width n ++ rest := by
  obtain ⟨d, ds, shape, digit⟩ := exists_paddedDigits_eq_cons width n
  rw [shape, List.cons_append, Text.trimStart_of_not_blank (isBlank_of_isDigit digit)]

/-- A number that fills the width is read, whatever follows. -/
lemma number_paddedDigits (pos : 0 < width) (fits : n < 10 ^ width)
    (small : n < UInt64.size / 2) :
    number width (paddedDigits width n ++ rest) = .ok (n, rest) := by
  obtain ⟨d, ds, shape, _⟩ := exists_paddedDigits_eq_cons width n
  have read : number width (paddedDigits width n ++ rest)
      = .ok (digitsValue (paddedDigits width n), rest) :=
    number_of_length (fun c => Text.isDigit_of_mem_paddedDigits) (by simp [shape])
      (Text.length_paddedDigits pos fits) (by rwa [Text.digitsValue_paddedDigits])
  rw [read, Text.digitsValue_paddedDigits]

/-- A part in two digits is read if it is in range. -/
lemma part_paddedDigits {least most : Nat} (low : least ≤ n) (high : n ≤ most) (fits : n < 10 ^ 2) :
    part least most (paddedDigits 2 n ++ rest) = .ok (n, rest) := by
  have read : number 2 (paddedDigits 2 n ++ rest) = .ok (n, rest) :=
    number_paddedDigits (by decide) fits (Nat.lt_trans fits (by decide))
  rw [part, trimStart_paddedDigits, read]
  show (if least ≤ n ∧ n ≤ most then _ else _) = _
  rw [if_pos ⟨low, high⟩]

lemma mark_cons (plain : isBlank c = false) : mark c (c :: rest) = .ok rest := by
  rw [mark, Text.trimStart_of_not_blank plain]
  exact if_pos rfl

/-! ### Years -/

lemma year_of_unsigned {d : Char} {cs : List Char} (digit : isDigit d = true)
    (read : number 4 (d :: cs) = .ok (n, rest)) (within : (n : Int) ≤ 2147483647) :
    year (d :: cs) = .ok ((n : Int), rest) := by
  have range : -2147483648 ≤ (n : Int) ∧ (n : Int) ≤ 2147483647 := by omega
  rw [year, Text.trimStart_of_not_blank (isBlank_of_isDigit digit)]
  split
  · rename_i eq
    cases eq
    exact absurd digit (by decide)
  · rename_i eq
    cases eq
    exact absurd digit (by decide)
  · rw [read]
    exact if_pos range

lemma year_of_minus {cs : List Char} (read : number cs.length cs = .ok (n, rest))
    (within : (n : Int) ≤ 2147483648) : year ('-' :: cs) = .ok (-(n : Int), rest) := by
  have range : -2147483648 ≤ -(n : Int) ∧ -(n : Int) ≤ 2147483647 := by omega
  rw [year, Text.trimStart_of_not_blank (by decide)]
  simp only [read]
  exact if_pos range

lemma year_of_plus {cs : List Char} (read : number cs.length cs = .ok (n, rest))
    (within : (n : Int) ≤ 2147483647) : year ('+' :: cs) = .ok ((n : Int), rest) := by
  have range : -2147483648 ≤ (n : Int) ∧ (n : Int) ≤ 2147483647 := by omega
  rw [year, Text.trimStart_of_not_blank (by decide)]
  simp only [read]
  exact if_pos range

/-- A year is read up to the mark that follows it. -/
lemma year_yearText {y : Int} (low : Date.firstYear ≤ y) (high : y ≤ Date.lastYear) :
    year (Instant.yearText y ++ '-' :: rest) = .ok (y, '-' :: rest) := by
  simp only [Date.firstYear, Date.lastYear] at low high
  unfold Instant.yearText
  by_cases plain : 0 ≤ y ∧ y ≤ 9999
  · have read : number 4 (paddedDigits 4 y.toNat ++ '-' :: rest) = .ok (y.toNat, '-' :: rest) :=
      number_paddedDigits (by decide) (by omega) (Nat.lt_trans (by omega) (by decide : 10000 < _))
    obtain ⟨d, ds, shape, digit⟩ := exists_paddedDigits_eq_cons 4 y.toNat
    rw [shape, List.cons_append] at read
    rw [if_pos plain, shape, List.cons_append, year_of_unsigned digit read (by omega),
      Int.toNat_of_nonneg plain.1]
  · have read : number (paddedDigits 4 y.natAbs ++ '-' :: rest).length
        (paddedDigits 4 y.natAbs ++ '-' :: rest)
          = .ok (digitsValue (paddedDigits 4 y.natAbs), '-' :: rest) := by
      obtain ⟨d, ds, shape, _⟩ := exists_paddedDigits_eq_cons 4 y.natAbs
      have size : UInt64.size / 2 = 9223372036854775808 := rfl
      exact number_of_stop (fun c => Text.isDigit_of_mem_paddedDigits) (by simp [shape])
        (by simp [isDigit]) (by simp) (by rw [Text.digitsValue_paddedDigits]; omega)
    rw [Text.digitsValue_paddedDigits] at read
    rw [if_neg plain, List.cons_append]
    by_cases negative : y < 0
    · rw [if_pos negative, year_of_minus read (by omega)]
      exact congrArg (fun y => Except.ok (y, _)) (by omega)
    · rw [if_neg negative, year_of_plus read (by omega)]
      exact congrArg (fun y => Except.ok (y, _)) (by omega)

/-! ### Fractions and zones -/

lemma fraction_of_width (pos : 0 < width) (short : width ≤ 9) (fits : n < 10 ^ width) :
    fraction ('.' :: (paddedDigits width n ++ ['Z'])) = .ok (n * 10 ^ (9 - width), ['Z']) := by
  have small : n < UInt64.size / 2 :=
    Nat.lt_of_lt_of_le fits (Nat.le_trans (Nat.pow_le_pow_right (by decide) short) (by decide))
  obtain ⟨d, ds, shape, _⟩ := exists_paddedDigits_eq_cons width n
  have length := Text.length_paddedDigits pos fits
  have read : number 9 (paddedDigits width n ++ ['Z'])
      = .ok (digitsValue (paddedDigits width n), ['Z']) :=
    number_of_stop (fun c => Text.isDigit_of_mem_paddedDigits) (by simp [shape])
      (by simp [isDigit]) (by omega) (by rwa [Text.digitsValue_paddedDigits])
  rw [Text.digitsValue_paddedDigits] at read
  have taken : (paddedDigits width n ++ ['Z']).length - ['Z'].length = width := by
    simp [length]
  simp only [fraction, read]
  show Except.ok (n * Nat.pow 10 (9 - _), List.dropWhile isDigit ['Z']) = _
  rw [taken]
  rfl

/-- The fraction of a second is read in full, however many digits it is written in. -/
lemma fraction_fractionText (nano : Nat) :
    fraction (Instant.fractionText nano ++ ['Z']) = .ok (nano % 1000000000, ['Z']) := by
  have small : nano % 1000000000 < 1000000000 := Nat.mod_lt _ (by decide)
  unfold Instant.fractionText
  simp only
  split
  · rename_i zero
    rw [zero]
    rfl
  · split
    · rw [List.cons_append, fraction_of_width (by decide) (by decide) (by omega)]
      exact congrArg (fun n => Except.ok (n, _)) (by omega)
    · split
      · rw [List.cons_append, fraction_of_width (by decide) (by decide) (by omega)]
        exact congrArg (fun n => Except.ok (n, _)) (by omega)
      · rw [List.cons_append, fraction_of_width (by decide) (by decide) (by omega)]
        exact congrArg (fun n => Except.ok (n, _)) (by omega)

lemma zone_universal : zone ['Z'] = .ok (0, []) := by
  rfl

/-! ### From parts to an instant -/

lemma shiftBack_zero {c : Civil} (valid : c.Valid) : Civil.shiftBack c 0 = c := by
  obtain ⟨_, hour, minute, _⟩ := valid
  have negative : ¬ (60 * c.hour + c.minute : Int) - 0 < 0 := by omega
  have inDay : (60 * c.hour + c.minute : Int) - 0 < 1440 := by omega
  simp only [Civil.shiftBack, if_neg negative, if_pos inDay]
  have minutes : (((60 * c.hour + c.minute : Int) - 0) % 1440).toNat = 60 * c.hour + c.minute := by
    omega
  rw [minutes]
  have hour_eq : (60 * c.hour + c.minute) / 60 = c.hour := by omega
  have minute_eq : (60 * c.hour + c.minute) % 60 = c.minute := by omega
  rw [hour_eq, minute_eq]

/-- The parts of an instant in universal time, a leap second written as second sixty. -/
lemma assemble_parts (i : Instant) :
    assemble i.civil.date i.civil.hour i.civil.minute
      (if i.civil.nano < 1000000000 then i.civil.second else i.civil.second + 1)
      (i.civil.nano % 1000000000) 0 = .ok i := by
  obtain ⟨c, valid⟩ := i
  obtain ⟨date, hour, minute, second, nano⟩ := c
  have parts := valid
  obtain ⟨_, _, _, second_lt, nano_lt, leap⟩ := parts
  have civil_eq : (if (if nano < 1000000000 then second else second + 1) = 60 then
      (⟨date, hour, minute, 59, nano % 1000000000 + 1000000000⟩ : Civil)
      else ⟨date, hour, minute, if nano < 1000000000 then second else second + 1,
        nano % 1000000000⟩) = ⟨date, hour, minute, second, nano⟩ := by
    simp only at second_lt nano_lt leap
    by_cases regular : nano < 1000000000
    · have small : nano % 1000000000 = nano := Nat.mod_eq_of_lt regular
      have not_leap : second ≠ 60 := by omega
      simp [regular, not_leap, small]
    · have second_eq := leap (by omega)
      have wrapped : nano % 1000000000 + 1000000000 = nano := by omega
      simp [regular, second_eq, wrapped]
  unfold assemble
  simp only [civil_eq]
  rw [if_neg (by simp [valid]), shiftBack_zero valid, Instant.ofCivil?, dif_pos valid]

end Reader

lemma Date.daysInMonth_le (year : Int) (month : Nat) : daysInMonth year month ≤ 31 := by
  unfold daysInMonth
  repeat' split
  all_goals omega

/-- The text of an instant is read as that instant. -/
theorem Instant.parse_render (i : Instant) : Instant.parse i.render = .ok i := by
  have whole := Reader.assemble_parts i
  obtain ⟨⟨low, high, day_pos, day_le⟩, hour, minute, second, _, leap⟩ := i.valid
  obtain ⟨month_pos, month_le⟩ := Date.month_of_daysInMonth_pos (Nat.le_trans day_pos day_le)
  have day_le := Nat.le_trans day_le (Date.daysInMonth_le _ _)
  generalize shown : (if i.civil.nano < 1000000000 then i.civil.second
    else i.civil.second + 1) = written at whole
  have written_le : written ≤ 60 := by
    rw [← shown]
    split <;> omega
  -- each part is where the reader comes to it
  have dash {cs : List Char} : Reader.mark '-' ('-' :: cs) = .ok cs := Reader.mark_cons rfl
  have colon {cs : List Char} : Reader.mark ':' (':' :: cs) = .ok cs := Reader.mark_cons rfl
  have joint {cs : List Char} : Reader.joint ('T' :: cs) = .ok cs := rfl
  rw [parse, render, String.toList_ofList]
  simp only [stampText, dateText, clockText, List.append_assoc, List.cons_append, shown, bind,
    Except.bind, dash, colon, joint, Reader.year_yearText low high,
    Reader.part_paddedDigits month_pos month_le (by omega),
    Reader.part_paddedDigits day_pos day_le (by omega),
    Reader.part_paddedDigits (Nat.zero_le _) (Nat.le_of_lt_succ hour) (by omega),
    Reader.part_paddedDigits (Nat.zero_le _) (Nat.le_of_lt_succ minute) (by omega),
    Reader.part_paddedDigits (Nat.zero_le _) written_le (by omega),
    Reader.fraction_fractionText, Reader.zone_universal]
  rw [if_neg (by simp [Text.trimStart])]
  exact whole

end Quorum.Time
