import Quorum.Proofs.Address.Json
import Quorum.Proofs.Text.HexDigits
import Quorum.Proofs.Text.Trim

/-!
# Which texts name addresses

A text names an address if it is a mark and forty hexadecimal digits, with nothing but blanks around
it. With all letters small and no blanks it is the text of the address itself, so that two texts
name one address exactly if they have this normal form in common. Of any other text the first
condition that fails is reported.
-/

namespace Quorum.Address

open Text (Trims)

variable {t body digits : List Char} {s s' n n' : String} {a : Address}
  {r r' : Except Error Address}

/-! ### Spellings -/

/-- A text starts with a mark, after which comes the rest. -/
def Marked (t body : List Char) : Prop :=
  t = '0' :: 'x' :: body ∨ t = '0' :: 'X' :: body

lemma marked_iff : Marked t body ↔ Hex.afterMark? t = some body := by
  constructor
  · rintro (rfl | rfl) <;> rfl
  · intro found
    unfold Hex.afterMark? at found
    split at found
    · cases found
      exact .inl rfl
    · cases found
      exact .inr rfl
    · cases found

lemma Marked.unique {body' : List Char} (h : Marked t body) (h' : Marked t body') :
    body = body' := by
  rw [marked_iff] at h h'
  exact Option.some.inj (h.symm.trans h')

/-- A text is a mark and forty digits, and this is its normal form: a small mark and small digits. -/
def Spells (t : List Char) (n : String) : Prop :=
  ∃ digits, Marked t digits ∧ digits.length = 40 ∧ (∀ c ∈ digits, Hex.IsDigit c) ∧
    n = String.ofList ('0' :: 'x' :: digits.map Char.toLower)

lemma Spells.unique (h : Spells t n) (h' : Spells t n') : n = n' := by
  obtain ⟨digits, marked, _, _, rfl⟩ := h
  obtain ⟨digits', marked', _, _, rfl⟩ := h'
  rw [marked.unique marked']

lemma render_inj {b : Address} (same : a.render = b.render) : a = b := by
  have parsed := a.parse_render
  rw [same, b.parse_render] at parsed
  exact (Except.ok.inj parsed).symm

/-- The text of an address has just its digits. -/
lemma render_eq_iff :
    a.render = String.ofList ('0' :: 'x' :: digits) ↔ Hex.encode a.bytes = digits := by
  rw [render, Hex.marked, String.ofList_inj]
  simp

/-- Every normal form is the text of an address. -/
lemma Spells.exists_render_eq (h : Spells t n) : ∃ a : Address, a.render = n := by
  obtain ⟨digits, _, forty, hex, rfl⟩ := h
  obtain ⟨bytes, same⟩ := Hex.exists_encode_eq hex (by rw [forty])
  have read := Hex.decode_utf8_eq_ok_iff.mpr ⟨hex, same⟩
  have twenty : bytes.length = 20 := by
    have length := Hex.length_of_decode read
    rw [Hex.length_utf8_of_isDigit hex, forty] at length
    omega
  exact ⟨⟨bytes, twenty⟩, render_eq_iff.mpr same⟩

/-! ### Answers -/

/-- What a text without blanks around it is read as. -/
inductive Reads (t : List Char) : Except Error Address → Prop
  | address {a : Address} (spelled : Spells t a.render) : Reads t (.ok a)
  | noMark (bare : ∀ body, ¬ Marked t body) : Reads t (.error (.noMark (String.ofList t)))
  | wrongLength {body : List Char} (marked : Marked t body)
      (size : (Text.utf8 body).length ≠ 40) :
      Reads t (.error (.wrongLength (Text.utf8 body).length))
  | notHex {body : List Char} {c : Char} (marked : Marked t body)
      (size : (Text.utf8 body).length = 40) (mem : c ∈ body) (strange : ¬ Hex.IsDigit c) :
      Reads t (.error (.notHex (String.ofList t)))

/-- There is just one answer to each text. -/
lemma Reads.unique (h : Reads t r) (h' : Reads t r') : r = r' := by
  cases h with
  | address spelled =>
    obtain ⟨digits, marked, forty, hex, normal⟩ := spelled
    cases h' with
    | address spelled' =>
      have same : Spells t _ := ⟨digits, marked, forty, hex, normal⟩
      rw [render_inj (same.unique spelled')]
    | noMark bare => exact absurd marked (bare digits)
    | wrongLength marked' size =>
      rw [← marked.unique marked', Hex.length_utf8_of_isDigit hex] at size
      exact absurd forty size
    | notHex marked' _ mem strange =>
      rw [← marked.unique marked'] at mem
      exact absurd (hex _ mem) strange
  | noMark bare =>
    cases h' with
    | address spelled =>
      obtain ⟨digits, marked, _⟩ := spelled
      exact absurd marked (bare digits)
    | noMark => rfl
    | wrongLength marked => exact absurd marked (bare _)
    | notHex marked => exact absurd marked (bare _)
  | wrongLength marked size =>
    cases h' with
    | address spelled =>
      obtain ⟨digits, marked', forty, hex, _⟩ := spelled
      rw [marked.unique marked', Hex.length_utf8_of_isDigit hex] at size
      exact absurd forty size
    | noMark bare => exact absurd marked (bare _)
    | wrongLength marked' => rw [marked.unique marked']
    | notHex marked' size' => exact absurd (marked.unique marked' ▸ size') size
  | notHex marked size mem strange =>
    cases h' with
    | address spelled =>
      obtain ⟨digits, marked', _, hex, _⟩ := spelled
      rw [marked.unique marked'] at mem
      exact absurd (hex _ mem) strange
    | noMark bare => exact absurd marked (bare _)
    | wrongLength marked' size' => exact absurd (marked.unique marked' ▸ size) size'
    | notHex => rfl

/-- Reading a text gives such an answer. -/
lemma reads_parse (trimmed : Trims s.toList t) : Reads t (parse s) := by
  rw [parse, Text.trims_iff.mp trimmed]
  split
  · rename_i bare
    refine .noMark fun body marked => ?_
    rw [marked_iff, bare] at marked
    cases marked
  · rename_i body found
    have marked := marked_iff.mpr found
    split
    · rename_i size
      split
      · rename_i bytes read
        obtain ⟨hex, same⟩ := Hex.decode_utf8_eq_ok_iff.mp read
        refine .address ⟨body, marked, ?_, hex, render_eq_iff.mpr same⟩
        rw [← Hex.length_utf8_of_isDigit hex, size]
      · rename_i e failed
        by_cases hex : ∀ c ∈ body, Hex.IsDigit c
        · -- forty digits are those of twenty bytes
          have forty : body.length = 40 := by rw [← Hex.length_utf8_of_isDigit hex, size]
          obtain ⟨bytes, same⟩ := Hex.exists_encode_eq hex (by rw [forty])
          rw [Hex.decode_utf8_eq_ok_iff.mpr ⟨hex, same⟩] at failed
          cases failed
        · obtain ⟨c, mem, strange⟩ : ∃ c ∈ body, ¬ Hex.IsDigit c := by simpa using hex
          exact .notHex marked size mem strange
    · rename_i size
      exact .wrongLength marked size

lemma parse_eq_iff (trimmed : Trims s.toList t) : parse s = r ↔ Reads t r :=
  ⟨fun answer => answer ▸ reads_parse trimmed, fun reads => (reads_parse trimmed).unique reads⟩

/-! ### Normal forms -/

/-- A text has a normal form if it is a mark and forty digits without the blanks around it. -/
def Normal (s n : String) : Prop :=
  ∃ t, Trims s.toList t ∧ Spells t n

/-- A text is read as the address whose text is its normal form. -/
lemma parse_eq_ok_iff : parse s = .ok a ↔ Normal s a.render := by
  have trimmed : Trims s.toList (Text.trim s.toList) := Text.trims_iff.mpr rfl
  constructor
  · intro read
    cases (parse_eq_iff trimmed).mp read with
    | address spelled => exact ⟨_, trimmed, spelled⟩
  · rintro ⟨t, trimmed, spelled⟩
    exact (parse_eq_iff trimmed).mpr (.address spelled)

/-- Without the blanks around it, a text is read as the address that it spells, or it is said which
condition fails. Every address is read back from its own text, which is the normal form of all texts
that are read as this address: two texts name one address exactly if they have one normal form. -/
theorem parse_exact (s s' : String) :
    (∃ t, Trims s.toList t ∧ ∀ r, parse s = r ↔ Reads t r) ∧
    (∀ a : Address, parse a.render = .ok a) ∧
    ((∃ a, parse s = .ok a ∧ parse s' = .ok a) ↔ ∃ n, Normal s n ∧ Normal s' n) := by
  have trimmed : Trims s.toList (Text.trim s.toList) := Text.trims_iff.mpr rfl
  refine ⟨⟨_, trimmed, fun r => parse_eq_iff trimmed⟩, parse_render, ?_⟩
  constructor
  · rintro ⟨a, read, read'⟩
    exact ⟨a.render, parse_eq_ok_iff.mp read, parse_eq_ok_iff.mp read'⟩
  · rintro ⟨n, normal, normal'⟩
    have ⟨_, _, spelled⟩ := normal
    obtain ⟨a, rfl⟩ := spelled.exists_render_eq
    exact ⟨a, parse_eq_ok_iff.mpr normal, parse_eq_ok_iff.mpr normal'⟩

end Quorum.Address
