/-!
# Bytes of a text

Lengths and hashes of texts are taken over their UTF-8 bytes.
-/

namespace Quorum.Text

/-- The UTF-8 bytes of a list of characters. -/
def utf8 (cs : List Char) : List UInt8 :=
  cs.flatMap String.utf8EncodeChar

@[simp] theorem utf8_nil : utf8 [] = [] := rfl

@[simp] theorem utf8_cons (c : Char) (cs : List Char) :
    utf8 (c :: cs) = String.utf8EncodeChar c ++ utf8 cs := rfl

@[simp] theorem utf8_append (cs ds : List Char) : utf8 (cs ++ ds) = utf8 cs ++ utf8 ds := by
  simp [utf8]

/-- The UTF-8 bytes of a string. -/
def bytes (s : String) : List UInt8 :=
  utf8 s.toList

end Quorum.Text
