/-!
# Hexadecimal text of bytes

Bytes are written as two lower-case digits each and read in either case. A text that can be read
has two digits for each byte.
-/

namespace Quorum.Hex

/-- Why a text is not the hexadecimal form of bytes. -/
inductive Error where
  | oddLength
  /-- The first byte of the text that is no digit, with its position. -/
  | badCharacter (byte : UInt8) (position : Nat)
deriving DecidableEq, Repr

/-- The lower-case digit of a number below sixteen. -/
def digit (n : Nat) : Char :=
  Nat.digitChar n

/-- The value of a digit of either case, given as the byte that encodes it. -/
def value? (b : UInt8) : Option Nat :=
  let n := b.toNat
  if 0x30 ≤ n ∧ n ≤ 0x39 then some (n - 0x30)
  else if 0x41 ≤ n ∧ n ≤ 0x46 then some (n - 0x37)
  else if 0x61 ≤ n ∧ n ≤ 0x66 then some (n - 0x57)
  else none

/-- Two digits for each byte. -/
def encode : List UInt8 → List Char
  | [] => []
  | b :: bs => digit (b.toNat / 16) :: digit (b.toNat % 16) :: encode bs

/-- The bytes denoted by pairs of digits; `position` is where the pairs start in the text. -/
def decodePairs (position : Nat) : List UInt8 → Except Error (List UInt8)
  | high :: low :: rest =>
    match value? high with
    | none => .error (.badCharacter high position)
    | some h =>
      match value? low with
      | none => .error (.badCharacter low (position + 1))
      | some l => (decodePairs (position + 2) rest).map (UInt8.ofNat (16 * h + l) :: ·)
  | _ => .ok []

/-- The bytes denoted by a text, given by its UTF-8 bytes. The length is judged first. -/
def decode (text : List UInt8) : Except Error (List UInt8) :=
  if text.length % 2 = 1 then .error .oddLength else decodePairs 0 text

/-- The text after a leading `0x` or `0X`, if it has one. -/
def afterMark? : List Char → Option (List Char)
  | '0' :: 'x' :: rest => some rest
  | '0' :: 'X' :: rest => some rest
  | _ => none

/-- Bytes as a text that starts with `0x`. -/
def marked (bs : List UInt8) : String :=
  String.ofList ('0' :: 'x' :: encode bs)

/-- Bytes as a text of digits alone. -/
def plain (bs : List UInt8) : String :=
  String.ofList (encode bs)

/-! ### Lengths -/

/-- Reading a text yields half as many bytes as it has. -/
theorem length_of_decodePairs {position : Nat} {text bs : List UInt8}
    (h : decodePairs position text = .ok bs) (even : text.length % 2 = 0) :
    text.length = 2 * bs.length := by
  induction position, text using decodePairs.induct generalizing bs with
  | case1 => simp_all [decodePairs]
  | case2 => simp_all [decodePairs]
  | case3 position high low rest hv hh lv hl ih =>
    simp only [decodePairs, hh, hl] at h
    cases hr : decodePairs (position + 2) rest with
    | error e => simp [hr, Except.map] at h
    | ok tail =>
      simp only [hr, Except.map, Except.ok.injEq] at h
      have := ih hr (by simp only [List.length_cons] at even; omega)
      subst h
      simp only [List.length_cons, this]
      omega
  | case4 text position short =>
    match text with
    | [] => simp_all [decodePairs]
    | [_] => simp at even
    | a :: b :: r => exact absurd rfl (short a b r)

theorem length_of_decode {text bs : List UInt8} (h : decode text = .ok bs) :
    text.length = 2 * bs.length := by
  by_cases odd : text.length % 2 = 1
  · simp [decode, odd] at h
  · simp only [decode, odd, if_false] at h
    exact length_of_decodePairs h (by omega)

end Quorum.Hex
