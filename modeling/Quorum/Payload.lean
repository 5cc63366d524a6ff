import Quorum.Text.Blank
import Quorum.Text.Hex
import Quorum.Text.Quoted
import Quorum.Text.Utf8

/-!
# Payloads

The opaque bytes that go with a call. They are written as `0x` and two lower-case digits a byte;
the mark may be missing from what is read.
-/

namespace Quorum.Payload

/-- Reads a payload: digits of either case, with or without the mark, and blanks around it. -/
def parse (s : String) : Except Hex.Error (List UInt8) :=
  let text := Text.trim s.toList
  Hex.decode (Text.utf8 ((Hex.afterMark? text).getD text))

/-- The payload as `0x` and its digits; `0x` alone is the empty payload. -/
def render (data : List UInt8) : String :=
  Hex.marked data

end Quorum.Payload

namespace Quorum.Hex

def Error.message : Error → String
  | .oddLength => "Odd number of digits"
  | .badCharacter byte position =>
    let shown := Text.quotedChar (Char.ofNat byte.toNat)
    s!"Invalid character {shown} at position {position}"

/-- The error with its kind and fields. -/
def Error.dump : Error → String
  | .oddLength => "OddLength"
  | .badCharacter byte position =>
    let shown := Text.quotedChar (Char.ofNat byte.toNat)
    s!"InvalidHexCharacter \x7b c: {shown}, index: {position} \x7d"

end Quorum.Hex
