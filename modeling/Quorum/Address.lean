import Quorum.Text.Blank
import Quorum.Text.Hex
import Quorum.Text.Utf8

/-!
# Addresses

An address names an owner, a wallet or a recipient. It is twenty bytes, written as `0x` and forty
lower-case digits, and ordered by its bytes.
-/

namespace Quorum

/-- Twenty bytes that name an account. -/
structure Address where
  bytes : List UInt8
  length_bytes : bytes.length = 20
deriving DecidableEq

namespace Address

/-! ### Order -/

instance : LT Address := ⟨fun a b => a.bytes < b.bytes⟩

instance : DecidableLT Address := fun a b => inferInstanceAs (Decidable (a.bytes < b.bytes))

@[ext] theorem ext {a b : Address} (h : a.bytes = b.bytes) : a = b := by
  cases a; cases b; simp_all

theorem lt_irrefl (a : Address) : ¬ a < a :=
  List.lt_irrefl a.bytes

theorem lt_trans {a b c : Address} (h₁ : a < b) (h₂ : b < c) : a < c :=
  List.lt_trans h₁ h₂

theorem lt_asymm {a b : Address} (h : a < b) : ¬ b < a :=
  fun h' => lt_irrefl a (lt_trans h h')

theorem ne_of_lt {a b : Address} (h : a < b) : a ≠ b :=
  fun e => lt_irrefl b (e ▸ h)

/-- Two different addresses are ordered one way or the other. -/
theorem lt_of_not_lt_of_ne {a b : Address} (h : ¬ a < b) (ne : a ≠ b) : b < a := by
  by_cases h' : b < a
  · exact h'
  · exact absurd (ext (List.le_antisymm (show a.bytes ≤ b.bytes from h') h)) ne

/-! ### Text -/

/-- The address whose bytes are all zero. -/
def zero : Address := ⟨List.replicate 20 0, rfl⟩

def isZero (a : Address) : Bool :=
  a.bytes.all (· == 0)

/-- The address as `0x` and forty lower-case digits. -/
def render (a : Address) : String :=
  Hex.marked a.bytes

instance : ToString Address := ⟨render⟩

/-- The first six and the last four characters of the address, with an ellipsis between. -/
def short (a : Address) : String :=
  let text := '0' :: 'x' :: Hex.encode a.bytes
  String.ofList (text.take 6 ++ '…' :: text.drop 38)

/-- The address as error texts show a value: with its kind around it. -/
def dump (a : Address) : String :=
  "Address(" ++ a.render ++ ")"

/-- Why a text names no address. -/
inductive Error where
  /-- The text, less the blanks around it, does not start with `0x`. -/
  | noMark (text : String)
  /-- The part after `0x` has `got` bytes and not forty. -/
  | wrongLength (got : Nat)
  | notHex (text : String)
deriving DecidableEq, Repr

def Error.message : Error → String
  | .noMark text => "Address must start with 0x: " ++ text
  | .wrongLength got => s!"Address must be 40 hex characters, got {got}"
  | .notHex text => "Address contains non-hex characters: " ++ text

/-- Reads an address: digits of either case, `0x` or `0X`, and blanks around it. -/
def parse (s : String) : Except Error Address :=
  let text := Text.trim s.toList
  match Hex.afterMark? text with
  | none => .error (.noMark (String.ofList text))
  | some body =>
    if size : (Text.utf8 body).length = 40 then
      match h : Hex.decode (Text.utf8 body) with
      | .ok bytes => .ok ⟨bytes, by have := Hex.length_of_decode h; omega⟩
      | .error _ => .error (.notHex (String.ofList text))
    else .error (.wrongLength (Text.utf8 body).length)

/-- The address made of the last twenty bytes of a digest of thirty-two. -/
def ofDigest (digest : List UInt8) (h : digest.length = 32) : Address :=
  ⟨digest.drop 12, by simp [h]⟩

end Address

end Quorum
