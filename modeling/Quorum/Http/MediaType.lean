/-!
# Media types

The value of a content type: a type, a subtype that may end in a suffix after a plus sign, and
parameters. Letters count in either case.
-/

namespace Quorum.Http

/-- A media type without its parameters, in lower case. -/
structure MediaType where
  type : List Char
  subtype : List Char
  /-- What follows the last plus sign of the subtype. -/
  suffix : Option (List Char)
deriving DecidableEq, Repr

namespace MediaType

/-- The characters of which types, and names and values of parameters, are made. -/
def isToken (c : Char) : Bool :=
  c.isAlphanum || c ∈ ['!', '#', '$', '%', '&', '\'', '*', '+', '-', '.', '^', '_', '`', '|', '~']

/-- The characters that a quoted value may hold. -/
def isQuotable (c : Char) : Bool :=
  31 < c.toNat && c.toNat < 127

/-- Where a reader of parameters stands. -/
inductive Place where
  /-- In a name; `fresh` until its first character is read. -/
  | name (fresh : Bool)
  /-- In a value; `fresh` until its first character is read. -/
  | value (fresh : Bool)
  /-- In a quoted value; `fresh` until its first character is read. -/
  | quoted (fresh : Bool)
  /-- Behind a quoted value. -/
  | behind
deriving DecidableEq, Repr

/-- Whether what stands behind a semicolon is a list of parameters, which may end in a semicolon and
blanks. -/
def parametersFrom : Place → List Char → Bool
  | .name fresh, [] => fresh
  | .value _, [] => true
  | .quoted _, [] => false
  | .behind, [] => true
  | .name fresh, c :: cs =>
    if c = ' ' ∧ fresh then parametersFrom (.name true) cs
    else if isToken c then parametersFrom (.name false) cs
    else if c = '=' ∧ !fresh then parametersFrom (.value true) cs
    else false
  | .value fresh, c :: cs =>
    if c = '"' ∧ fresh then parametersFrom (.quoted true) cs
    else if isToken c then parametersFrom (.value false) cs
    else if c = ';' ∧ !fresh then parametersFrom (.name true) cs
    else false
  | .quoted fresh, c :: cs =>
    if c = '"' ∧ !fresh then parametersFrom .behind cs
    else if isQuotable c then parametersFrom (.quoted false) cs
    else false
  | .behind, c :: cs =>
    if c = ';' then parametersFrom (.name true) cs
    else if c = ' ' then parametersFrom .behind cs
    else false

/-- Splits a subtype at its last plus sign, unless that is its first character. -/
def splitSuffix (subtype : List Char) : List Char × Option (List Char) :=
  let suffix := (subtype.reverse.takeWhile (· ≠ '+')).reverse
  let before := subtype.take (subtype.length - suffix.length - 1)
  if '+' ∈ subtype.drop 1 then (before, some suffix) else (subtype, none)

/-- Reads a content type. -/
def parse? (s : String) : Option MediaType :=
  let lower := s.toList.map Char.toLower
  let type := lower.takeWhile isToken
  match lower.dropWhile isToken with
  | '/' :: rest =>
    let whole := rest.takeWhile isToken
    let (subtype, suffix) := splitSuffix whole
    let found : MediaType := ⟨type, subtype, suffix⟩
    if type.isEmpty then none
    else
      match rest.dropWhile isToken with
      | [] => some found
      | ';' :: parameters =>
        if !whole.isEmpty && parametersFrom (.name true) parameters then some found else none
      | _ => none
  | _ => none

/-- Whether the type is that of JSON, or of a format that is written in JSON. -/
def isJson (m : MediaType) : Bool :=
  String.ofList m.type = "application"
    && (String.ofList m.subtype = "json" || m.suffix.map String.ofList = some "json")

end MediaType

end Quorum.Http
