import Quorum.Text.Hex
import Quorum.Text.Utf8

/-!
# Percent-encoded text

In a path a byte may stand as a percent sign with two hexadecimal digits. A percent sign without
them stands for itself.
-/

namespace Quorum.Http

/-- The byte of a percent sign. -/
def percentSign : UInt8 := 0x25

/-- Bytes with every encoded byte decoded. -/
def percentDecode : List UInt8 → List UInt8
  | [] => []
  | b :: bs =>
    if b = percentSign then
      match bs with
      | high :: low :: rest =>
        match Hex.value? high, Hex.value? low with
        | some h, some l => UInt8.ofNat (16 * h + l) :: percentDecode rest
        | _, _ => b :: percentDecode (high :: low :: rest)
      | short => b :: short
    else b :: percentDecode bs
termination_by bs => bs.length

/-- The text that a part of a path stands for, if its bytes are UTF-8. -/
def percentDecoded? (s : String) : Option String :=
  String.fromUTF8? ⟨(percentDecode (Text.bytes s)).toArray⟩

end Quorum.Http
