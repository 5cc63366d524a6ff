import Quorum.Proofs.Address.Reading

/-!
# Which texts are payloads

A text is stripped of the blanks around it and of the mark, if it has one. If hexadecimal digits are
left, two for each byte, it is read as these bytes, and they are written with the same digits, all
of them small. Of any other text it is said that the number of its bytes is odd, or else which of
them is the first that is no digit.
-/

namespace Quorum.Payload

open Address (Marked marked_iff)
open Hex (IsDigitByte FirstStrange)
open Text (Trims)

variable {s : String} {u u' : List Char} {data data' : List UInt8}
  {r : Except Hex.Error (List UInt8)}

/-! ### What is left of a text -/

/-- The second text is left of the first without the blanks around it, and then without the mark
that it may start with. -/
def Strips (s : String) (u : List Char) : Prop :=
  ∃ t, Trims s.toList t ∧ (Marked t u ∨ (∀ body, ¬ Marked t body) ∧ u = t)

lemma strips_iff : Strips s u ↔
    (Hex.afterMark? (Text.trim s.toList)).getD (Text.trim s.toList) = u := by
  simp only [Strips, Text.trims_iff, exists_eq_left', marked_iff]
  cases Hex.afterMark? (Text.trim s.toList) with
  | none => simp [eq_comm]
  | some body => simp

lemma existsUnique_strips (s : String) : ∃! u, Strips s u := by
  simp only [strips_iff]
  exact existsUnique_eq'

lemma parse_of_strips (stripped : Strips s u) : parse s = Hex.decode (Text.utf8 u) := by
  rw [parse, strips_iff.mp stripped]

/-! ### Digits -/

/-- A text consists of hexadecimal digits, two for each byte that they denote. -/
def DigitPairs (u : List Char) : Prop :=
  (Text.utf8 u).length % 2 = 0 ∧ ∀ b ∈ Text.utf8 u, IsDigitByte b

instance (u : List Char) : Decidable (DigitPairs u) :=
  decidable_of_iff ((Text.utf8 u).length % 2 = 0 ∧ (Text.utf8 u).all (IsDigitByte ·) = true)
    (by simp [DigitPairs])

lemma not_digitPairs_of_firstStrange {b : UInt8} {p : Nat}
    (first : FirstStrange (Text.utf8 u) b p) : ¬ DigitPairs u :=
  fun pairs => first.not_isDigitByte (pairs.2 b first.mem)

/-- The text with small letters, after a small mark. -/
def lowered (u : List Char) : String :=
  String.ofList ('0' :: 'x' :: u.map Char.toLower)

lemma lowered_inj : lowered u = lowered u' ↔ u.map Char.toLower = u'.map Char.toLower := by
  rw [lowered, lowered, String.ofList_inj]
  simp

lemma render_eq_lowered_iff : render data = lowered u ↔ Hex.encode data = u.map Char.toLower := by
  rw [render, Hex.marked, lowered, String.ofList_inj]
  simp

lemma render_inj : render data = render data' ↔ data = data' := by
  refine ⟨fun same => ?_, congrArg render⟩
  have read := parse_render data
  rw [same, parse_render] at read
  exact (Except.ok.inj read).symm

lemma decode_eq_ok_iff : Hex.decode (Text.utf8 u) = .ok data ↔
    DigitPairs u ∧ render data = lowered u := by
  rw [Hex.decode_utf8_eq_ok_iff, render_eq_lowered_iff, Hex.forall_isDigit_iff_bytes]
  constructor
  · rintro ⟨digits, same⟩
    have read := Hex.decode_utf8_eq_ok_iff.mpr ⟨Hex.forall_isDigit_iff_bytes.mpr digits, same⟩
    have length := Hex.length_of_decode read
    exact ⟨⟨by omega, digits⟩, same⟩
  · rintro ⟨⟨_, digits⟩, same⟩
    exact ⟨digits, same⟩

/-! ### Answers -/

/-- What is answered to a text of which `u` is left. -/
inductive Reads (u : List Char) : Except Hex.Error (List UInt8) → Prop
  | bytes {data : List UInt8} (pairs : DigitPairs u) (written : render data = lowered u) :
      Reads u (.ok data)
  | oddLength (odd : (Text.utf8 u).length % 2 = 1) : Reads u (.error .oddLength)
  | badCharacter {b : UInt8} {p : Nat} (even : (Text.utf8 u).length % 2 = 0)
      (first : FirstStrange (Text.utf8 u) b p) : Reads u (.error (.badCharacter b p))

lemma reads_decode (u : List Char) : Reads u (Hex.decode (Text.utf8 u)) := by
  cases read : Hex.decode (Text.utf8 u) with
  | ok data =>
    obtain ⟨pairs, written⟩ := decode_eq_ok_iff.mp read
    exact .bytes pairs written
  | error e =>
    by_cases odd : (Text.utf8 u).length % 2 = 1
    · rw [Hex.decode, if_pos odd] at read
      cases read
      exact .oddLength odd
    · rw [Hex.decode, if_neg odd] at read
      obtain ⟨b, p, first, rfl⟩ := Hex.firstStrange_of_decodePairs read
      rw [Nat.zero_add]
      exact .badCharacter (by omega) first

lemma Reads.decode_eq (h : Reads u r) : Hex.decode (Text.utf8 u) = r := by
  cases h with
  | bytes pairs written => exact decode_eq_ok_iff.mpr ⟨pairs, written⟩
  | oddLength odd => exact if_pos odd
  | badCharacter even first =>
    -- of all answers only a first byte that is no digit agrees with the one there is
    have answer := reads_decode u
    generalize Hex.decode (Text.utf8 u) = r at answer
    cases answer with
    | bytes pairs => exact absurd pairs (not_digitPairs_of_firstStrange first)
    | oddLength odd => exact absurd (even.symm.trans odd) (by decide)
    | badCharacter _ first' =>
      obtain ⟨rfl, rfl⟩ := first.unique first'
      rfl

lemma parse_eq_iff (stripped : Strips s u) : parse s = r ↔ Reads u r := by
  rw [parse_of_strips stripped]
  exact ⟨fun read => read ▸ reads_decode u, Reads.decode_eq⟩

lemma exists_parse_eq_ok_iff (stripped : Strips s u) :
    (∃ data, parse s = .ok data) ↔ DigitPairs u := by
  constructor
  · rintro ⟨data, read⟩
    cases (parse_eq_iff stripped).mp read with
    | bytes pairs => exact pairs
  · intro pairs
    cases read : parse s with
    | ok data => exact ⟨data, rfl⟩
    | error e =>
      cases (parse_eq_iff stripped).mp read with
      | oddLength odd => exact absurd (pairs.1.symm.trans odd) (by decide)
      | badCharacter _ first => exact absurd pairs (not_digitPairs_of_firstStrange first)

/-- Every payload is read back from its own text. Of a text the blanks around it and the mark are
taken away, which leaves just one text: if that consists of pairs of digits, its bytes are read, and
they are written with the same digits in small letters. Otherwise it is said what is wrong with it.
Texts that are read have the same bytes exactly if their digits are the same but for their case. -/
theorem codec_exact :
    (∀ data, parse (render data) = .ok data) ∧
    (∀ s, ∃! u, Strips s u) ∧
    (∀ s u, Strips s u →
      ((∃ data, parse s = .ok data) ↔ DigitPairs u) ∧ ∀ r, parse s = r ↔ Reads u r) ∧
    ∀ s s' u u' data data', Strips s u → Strips s' u' → parse s = .ok data → parse s' = .ok data' →
      (data = data' ↔ u.map Char.toLower = u'.map Char.toLower) := by
  refine ⟨parse_render, existsUnique_strips, fun s u stripped => ?_, ?_⟩
  · exact ⟨exists_parse_eq_ok_iff stripped, fun r => parse_eq_iff stripped⟩
  · intro s s' u u' data data' stripped stripped' read read'
    rw [parse_of_strips stripped] at read
    rw [parse_of_strips stripped'] at read'
    have written := (decode_eq_ok_iff.mp read).2
    have written' := (decode_eq_ok_iff.mp read').2
    rw [← render_inj, written, written', lowered_inj]

/-- A mark and digits in capitals, between blanks, are the same bytes as small digits alone. Only
one mark is taken away, and of a letter with an accent the first of its two bytes is reported. -/
theorem capitals_same_bytes :
    Strips "\u00a00XDEADbeef\n" "DEADbeef".toList ∧ Strips "deadBEEF" "deadBEEF".toList ∧
    Strips "0x0X" "0X".toList ∧ Strips "a\u00e91" "a\u00e91".toList ∧
    parse "\u00a00XDEADbeef\n" = .ok [0xde, 0xad, 0xbe, 0xef] ∧
    parse "deadBEEF" = .ok [0xde, 0xad, 0xbe, 0xef] ∧
    "DEADbeef".toList.map Char.toLower = "deadBEEF".toList.map Char.toLower ∧
    parse "0x0X" = .error (.badCharacter 0x58 1) ∧
    parse "a\u00e91" = .error (.badCharacter 0xc3 1) := by
  obtain ⟨_, _, answers, agree⟩ := codec_exact
  have capitals : Strips "\u00a00XDEADbeef\n" "DEADbeef".toList := strips_iff.mpr (by decide)
  have small : Strips "deadBEEF" "deadBEEF".toList := strips_iff.mpr (by decide)
  have marks : Strips "0x0X" "0X".toList := strips_iff.mpr (by decide)
  have accent : Strips "a\u00e91" "a\u00e91".toList := strips_iff.mpr (by decide)
  have read : parse "\u00a00XDEADbeef\n" = .ok [0xde, 0xad, 0xbe, 0xef] :=
    ((answers _ _ capitals).2 _).mpr (.bytes (by decide) (by decide))
  have read' : parse "deadBEEF" = .ok [0xde, 0xad, 0xbe, 0xef] :=
    ((answers _ _ small).2 _).mpr (.bytes (by decide) (by decide))
  refine ⟨capitals, small, marks, accent, read, read',
    (agree _ _ _ _ _ _ capitals small read read').mp rfl, ?_, ?_⟩
  · refine ((answers _ _ marks).2 _).mpr (.badCharacter (by decide) ?_)
    exact ⟨[0x30], [], rfl, List.forall_mem_singleton.mpr (by decide), by decide, rfl⟩
  · refine ((answers _ _ accent).2 _).mpr (.badCharacter (by decide) ?_)
    exact ⟨[0x61], [0xa9, 0x31], rfl, List.forall_mem_singleton.mpr (by decide), by decide, rfl⟩

end Quorum.Payload
