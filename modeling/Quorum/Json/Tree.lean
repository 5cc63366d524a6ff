/-!
# What a JSON text holds

A text is read as far as it goes. Where it stops being JSON the tree says so in that very place, so
that whoever walks the tree in text order meets what is wrong in the text at the point where a
reader of the text would.
-/

namespace Quorum.Json

/-- A number as it is written. -/
structure Number where
  negative : Bool
  whole : List Char
  /-- The digits after the point, if there is one. -/
  fraction : Option (List Char)
  /-- Whether the exponent is negative, and its digits, if there is one. -/
  exponent : Option (Bool × List Char)
deriving DecidableEq, Repr

/-- A JSON value, as far as it could be read. -/
inductive Tree where
  /-- No value can be read here. -/
  | broken
  | null
  | flag (value : Bool)
  | number (value : Number)
  /-- A string; none if its escapes do not make up Unicode text. -/
  | text (value : Option String)
  /-- An array; if it is not closed, the text breaks off after the last item. -/
  | array (items : List Tree) (closed : Bool)
  /-- An object by its members in text order; if it is not closed, the text breaks off after the last
  member. -/
  | object (members : List (Option String × Tree)) (closed : Bool)

namespace Tree

mutual

/-- Whether all of the value could be read. -/
def isWhole : Tree → Bool
  | .broken => false
  | .array items closed => allWhole items && closed
  | .object members closed => membersWhole members && closed
  | _ => true

def allWhole : List Tree → Bool
  | [] => true
  | t :: ts => isWhole t && allWhole ts

def membersWhole : List (Option String × Tree) → Bool
  | [] => true
  | (_, t) :: ms => isWhole t && membersWhole ms

end

end Tree

/-- A text that should hold one value: the value, and whether only white space follows it. -/
structure Document where
  tree : Tree
  ended : Bool

end Quorum.Json
