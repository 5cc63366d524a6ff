import Quorum.Proofs.Text.Hex

/-!
# Which texts are digits of bytes

A text is read as bytes exactly if it consists of hexadecimal digits, two for each byte. The bytes
are written with the same digits, all of them small. If an even number of bytes is not read, the
first of them that is no digit is reported.
-/

namespace Quorum.Hex

variable {bs : List UInt8} {cs : List Char} {c : Char}

/-- A hexadecimal digit of either case. -/
def IsDigit (c : Char) : Prop :=
  '0' ≤ c ∧ c ≤ '9' ∨ 'a' ≤ c ∧ c ≤ 'f' ∨ 'A' ≤ c ∧ c ≤ 'F'

instance (c : Char) : Decidable (IsDigit c) :=
  inferInstanceAs (Decidable (_ ∨ _ ∨ _))

/-! ### One digit -/

/-- A digit is the small one of some value, or that as a capital. -/
lemma exists_of_isDigit (h : IsDigit c) :
    ∃ n < 16, c.toLower = digit n ∧ (c = digit n ∨ c = (digit n).toUpper) := by
  have each : ∀ n < 128, IsDigit (Char.ofNat n) → ∃ m < 16, (Char.ofNat n).toLower = digit m ∧
      (Char.ofNat n = digit m ∨ Char.ofNat n = (digit m).toUpper) := by decide
  have ascii : c.toNat < 128 := by
    have ranges : 48 ≤ c.toNat ∧ c.toNat ≤ 57 ∨ 97 ≤ c.toNat ∧ c.toNat ≤ 102 ∨
        65 ≤ c.toNat ∧ c.toNat ≤ 70 := h
    omega
  have found := each c.toNat ascii
  rw [Char.ofNat_toNat] at found
  exact found h

lemma length_utf8EncodeChar_of_isDigit (h : IsDigit c) :
    (String.utf8EncodeChar c).length = 1 := by
  obtain ⟨n, small, _, written⟩ := exists_of_isDigit h
  obtain ⟨_, one, _⟩ := denotes_recased small written
  rw [one, List.length_singleton]

/-- The bytes of a character that has more than one are no digits. -/
lemma value?_eq_none_of_high {n : Nat} (high : 128 ≤ n) (byte : n < 256) :
    value? (UInt8.ofNat n) = none := by
  have number : (UInt8.ofNat n).toNat = n := Nat.mod_eq_of_lt byte
  simp only [value?, number]
  split_ifs <;> first | omega | rfl

/-- A character all of whose bytes have values is a digit. -/
lemma isDigit_of_value? (known : ∀ b ∈ String.utf8EncodeChar c, value? b ≠ none) : IsDigit c := by
  have each : ∀ n < 128, value? (UInt8.ofNat n) ≠ none → IsDigit (Char.ofNat n) := by decide
  unfold String.utf8EncodeChar at known
  simp only at known
  split at known
  · rename_i ascii
    have digit := each c.toNat (Nat.lt_succ_of_le ascii) (known _ List.mem_cons_self)
    rwa [Char.ofNat_toNat] at digit
  · split at known
    · exact absurd (value?_eq_none_of_high (by omega) (by omega)) (known _ List.mem_cons_self)
    · split at known
      · exact absurd (value?_eq_none_of_high (by omega) (by omega)) (known _ List.mem_cons_self)
      · exact absurd (value?_eq_none_of_high (by omega) (by omega)) (known _ List.mem_cons_self)

/-! ### All digits -/

/-- Digits are as many bytes as characters. -/
lemma length_utf8_of_isDigit (digits : ∀ c ∈ cs, IsDigit c) :
    (Text.utf8 cs).length = cs.length := by
  induction cs with
  | nil => rfl
  | cons c cs ih =>
    rw [List.forall_mem_cons] at digits
    rw [Text.utf8_cons, List.length_append, length_utf8EncodeChar_of_isDigit digits.1,
      ih digits.2, List.length_cons, Nat.add_comm]

/-- What is read consists of bytes that have values. -/
lemma value?_of_decodePairs {position : Nat} {text : List UInt8}
    (even : text.length % 2 = 0) (read : decodePairs position text = .ok bs) :
    ∀ b ∈ text, value? b ≠ none := by
  induction position, text using decodePairs.induct generalizing bs with
  | case1 position high low rest unknown =>
    rw [decodePairs, unknown] at read
    cases read
  | case2 position high low rest h known unknown =>
    rw [decodePairs, known, unknown] at read
    cases read
  | case3 position high low rest h known l known' ih =>
    simp only [decodePairs, known, known'] at read
    simp only [List.length_cons] at even
    rw [List.forall_mem_cons, List.forall_mem_cons, known, known']
    refine ⟨Option.some_ne_none h, Option.some_ne_none l, ?_⟩
    cases later : decodePairs (position + 2) rest with
    | error e =>
      rw [later] at read
      cases read
    | ok tail => exact ih (by omega) later
  | case4 text position short =>
    rcases text with _ | ⟨first, _ | ⟨second, rest⟩⟩
    · exact List.forall_mem_nil _
    · simp at even
    · exact absurd rfl (short first second rest)

/-- Digits in pairs are those of bytes, but for their case. -/
lemma exists_encode_eq : ∀ {cs : List Char}, (∀ c ∈ cs, IsDigit c) → cs.length % 2 = 0 →
    ∃ bs, encode bs = cs.map Char.toLower
  | [], _, _ => ⟨[], rfl⟩
  | [_], _, even => by simp at even
  | first :: second :: rest, digits, even => by
    rw [List.forall_mem_cons, List.forall_mem_cons] at digits
    obtain ⟨h, high, first_eq, _⟩ := exists_of_isDigit digits.1
    obtain ⟨l, low, second_eq, _⟩ := exists_of_isDigit digits.2.1
    have rest_even : rest.length % 2 = 0 := by
      simp only [List.length_cons] at even
      omega
    obtain ⟨bs, rest_eq⟩ := exists_encode_eq digits.2.2 rest_even
    have byte : (UInt8.ofNat (16 * h + l)).toNat = 16 * h + l := Nat.mod_eq_of_lt (by omega)
    refine ⟨UInt8.ofNat (16 * h + l) :: bs, ?_⟩
    rw [encode, byte, rest_eq, show (16 * h + l) / 16 = h by omega,
      show (16 * h + l) % 16 = l by omega, List.map_cons, List.map_cons, first_eq, second_eq]

/-- Digits are those of bytes, of which some are written as capitals. -/
lemma recased_of_isDigit (digits : ∀ c ∈ cs, IsDigit c) (same : encode bs = cs.map Char.toLower) :
    Text.Recased (encode bs) cs := by
  rw [same, Text.Recased, List.forall₂_map_left_iff, List.forall₂_same]
  intro c mem
  obtain ⟨n, _, lower, written⟩ := exists_of_isDigit (digits c mem)
  rwa [lower]

/-- A text is read as bytes exactly if it is their digits, in whatever case. -/
theorem decode_utf8_eq_ok_iff : decode (Text.utf8 cs) = .ok bs ↔
    (∀ c ∈ cs, IsDigit c) ∧ encode bs = cs.map Char.toLower := by
  constructor
  · intro read
    have digits : ∀ c ∈ cs, IsDigit c := by
      have even : ¬ (Text.utf8 cs).length % 2 = 1 := by
        have length := length_of_decode read
        omega
      have pairs := read
      rw [decode, if_neg even] at pairs
      have known := value?_of_decodePairs (by omega) pairs
      exact fun c mem => isDigit_of_value? fun b inside =>
        known b (List.mem_flatMap.mpr ⟨c, mem, inside⟩)
    refine ⟨digits, ?_⟩
    have even : cs.length % 2 = 0 := by
      have length := length_of_decode read
      rw [length_utf8_of_isDigit digits] at length
      omega
    obtain ⟨bs', same⟩ := exists_encode_eq digits even
    have read' := decode_recased (recased_of_isDigit digits same)
    rw [read] at read'
    rw [Except.ok.inj read', same]
  · rintro ⟨digits, same⟩
    exact decode_recased (recased_of_isDigit digits same)

/-! ### The bytes of digits -/

/-- A byte that stands for a hexadecimal digit. -/
def IsDigitByte (b : UInt8) : Prop :=
  IsDigit (Char.ofUInt8 b)

/-- Just the bytes of digits have values. -/
lemma isDigitByte_iff {b : UInt8} : IsDigitByte b ↔ value? b ≠ none := by
  have code : (Char.ofUInt8 b).toNat = b.toNat := b.toNat_toUInt32
  have ranges : IsDigitByte b ↔ 48 ≤ (Char.ofUInt8 b).toNat ∧ (Char.ofUInt8 b).toNat ≤ 57 ∨
      97 ≤ (Char.ofUInt8 b).toNat ∧ (Char.ofUInt8 b).toNat ≤ 102 ∨
      65 ≤ (Char.ofUInt8 b).toNat ∧ (Char.ofUInt8 b).toNat ≤ 70 := Iff.rfl
  rw [ranges, code, value?]
  split_ifs with decimal capital small
  · exact iff_of_true (.inl decimal) (Option.some_ne_none _)
  · exact iff_of_true (.inr (.inr capital)) (Option.some_ne_none _)
  · exact iff_of_true (.inr (.inl small)) (Option.some_ne_none _)
  · exact iff_of_false (by omega) (not_not.mpr rfl)

instance : DecidablePred IsDigitByte := fun _ => decidable_of_iff _ isDigitByte_iff.symm

lemma isDigitByte_of_value? {b : UInt8} {n : Nat} (known : value? b = some n) : IsDigitByte b :=
  isDigitByte_iff.mpr (known ▸ Option.some_ne_none n)

lemma not_isDigitByte_of_value? {b : UInt8} (unknown : value? b = none) : ¬ IsDigitByte b :=
  fun digit => isDigitByte_iff.mp digit unknown

lemma isDigit_iff_bytes : IsDigit c ↔ ∀ b ∈ String.utf8EncodeChar c, IsDigitByte b := by
  constructor
  · intro digit
    obtain ⟨n, small, _, written⟩ := exists_of_isDigit digit
    obtain ⟨_, one, value⟩ := denotes_recased small written
    rw [one, List.forall_mem_singleton]
    exact isDigitByte_of_value? value
  · intro digits
    exact isDigit_of_value? fun b mem => isDigitByte_iff.mp (digits b mem)

/-- A text consists of digits if each of its bytes is one. -/
lemma forall_isDigit_iff_bytes : (∀ c ∈ cs, IsDigit c) ↔ ∀ b ∈ Text.utf8 cs, IsDigitByte b := by
  simp only [isDigit_iff_bytes, Text.utf8, List.mem_flatMap]
  constructor
  · rintro digits b ⟨c, mem, inside⟩
    exact digits c mem b inside
  · intro digits c mem b inside
    exact digits b ⟨c, mem, inside⟩

/-! ### The first byte that is no digit -/

/-- The first byte of a text that is no digit is `b`, and `p` is its position. -/
def FirstStrange (text : List UInt8) (b : UInt8) (p : Nat) : Prop :=
  ∃ front back, text = front ++ b :: back ∧ (∀ d ∈ front, IsDigitByte d) ∧ ¬ IsDigitByte b ∧
    p = front.length

variable {text : List UInt8} {b b' d : UInt8} {p p' : Nat}

lemma FirstStrange.mem (h : FirstStrange text b p) : b ∈ text := by
  obtain ⟨front, back, rfl, _⟩ := h
  exact List.mem_append_right front List.mem_cons_self

lemma FirstStrange.not_isDigitByte (h : FirstStrange text b p) : ¬ IsDigitByte b := by
  obtain ⟨_, _, _, _, strange, _⟩ := h
  exact strange

lemma FirstStrange.head (strange : ¬ IsDigitByte b) : FirstStrange (b :: text) b 0 :=
  ⟨[], text, rfl, List.forall_mem_nil _, strange, rfl⟩

lemma FirstStrange.tail (h : FirstStrange text b p) (digit : IsDigitByte d) :
    FirstStrange (d :: text) b (p + 1) := by
  obtain ⟨front, back, rfl, digits, strange, rfl⟩ := h
  exact ⟨d :: front, back, rfl, List.forall_mem_cons.mpr ⟨digit, digits⟩, strange, rfl⟩

/-- A scan over the digits stops at the first byte that is none. -/
lemma FirstStrange.scan_eq (h : FirstStrange text b p) :
    (text.dropWhile (IsDigitByte ·)).head? = some b ∧
      (text.takeWhile (IsDigitByte ·)).length = p := by
  obtain ⟨front, back, rfl, digits, strange, rfl⟩ := h
  have digits : ∀ d ∈ front, decide (IsDigitByte d) = true := by simpa using digits
  rw [List.dropWhile_append_of_pos digits, List.takeWhile_append_of_pos digits]
  simp [strange]

lemma FirstStrange.unique (h : FirstStrange text b p) (h' : FirstStrange text b' p') :
    b = b' ∧ p = p' := by
  obtain ⟨byte, position⟩ := h.scan_eq
  obtain ⟨byte', position'⟩ := h'.scan_eq
  exact ⟨Option.some.inj (byte.symm.trans byte'), position.symm.trans position'⟩

/-- If pairs are not read, it is for the first byte that is no digit. -/
lemma firstStrange_of_decodePairs {position : Nat} {e : Error}
    (failed : decodePairs position text = .error e) :
    ∃ b p, FirstStrange text b p ∧ e = .badCharacter b (position + p) := by
  induction position, text using decodePairs.induct with
  | case1 position high low rest unknown =>
    rw [decodePairs, unknown] at failed
    cases failed
    exact ⟨high, 0, .head (not_isDigitByte_of_value? unknown), rfl⟩
  | case2 position high low rest h known unknown =>
    rw [decodePairs, known, unknown] at failed
    cases failed
    have first : FirstStrange (low :: rest) low 0 := .head (not_isDigitByte_of_value? unknown)
    exact ⟨low, 1, first.tail (isDigitByte_of_value? known), rfl⟩
  | case3 position high low rest h known l known' ih =>
    simp only [decodePairs, known, known'] at failed
    cases later : decodePairs (position + 2) rest with
    | ok tail =>
      rw [later] at failed
      cases failed
    | error e' =>
      rw [later] at failed
      cases failed
      obtain ⟨b, p, first, rfl⟩ := ih later
      have digit := isDigitByte_of_value? known
      have digit' := isDigitByte_of_value? known'
      exact ⟨b, p + 2, (first.tail digit').tail digit, by rw [Nat.add_right_comm, Nat.add_assoc]⟩
  | case4 text position short =>
    -- what is shorter than a pair is read as no bytes
    rw [decodePairs] at failed
    · cases failed
    · exact short

end Quorum.Hex
