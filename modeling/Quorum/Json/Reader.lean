import Quorum.Json.Tree
import Quorum.Text.Digits

/-!
# Reading of JSON texts

The grammar of JSON, strictly: numbers without leading zeros, strings without control characters, no
comma before a closing bracket.
-/

namespace Quorum.Json

/-! ### White space and numbers -/

/-- The four characters that may stand between tokens. -/
def isSpace (c : Char) : Bool :=
  c = ' ' || c = '\n' || c = '\t' || c = '\r'

def skipSpace (cs : List Char) : List Char :=
  cs.dropWhile isSpace

/-- A run of digits and what follows it; none if there is no digit. -/
def digitRun? (cs : List Char) : Option (List Char × List Char) :=
  match cs.takeWhile Text.isDigit with
  | [] => none
  | ds => some (ds, cs.dropWhile Text.isDigit)

/-- The digits before the point: a zero alone, or digits that start with another. -/
def wholePart? (cs : List Char) : Option (List Char × List Char) := do
  let (ds, rest) ← digitRun? cs
  if ds.head? = some '0' ∧ 1 < ds.length then none else some (ds, rest)

/-- The point and the digits after it, if there is a point. -/
def fractionPart? : List Char → Option (Option (List Char) × List Char)
  | '.' :: cs => do
    let (ds, rest) ← digitRun? cs
    some (some ds, rest)
  | cs => some (none, cs)

/-- The sign and the digits of an exponent, after the letter. -/
def exponentDigits? : List Char → Option ((Bool × List Char) × List Char)
  | '+' :: cs => (digitRun? cs).map fun (ds, rest) => ((false, ds), rest)
  | '-' :: cs => (digitRun? cs).map fun (ds, rest) => ((true, ds), rest)
  | cs => (digitRun? cs).map fun (ds, rest) => ((false, ds), rest)

/-- The exponent, if there is one. -/
def exponentPart? : List Char → Option (Option (Bool × List Char) × List Char)
  | 'e' :: cs => (exponentDigits? cs).map fun (e, rest) => (some e, rest)
  | 'E' :: cs => (exponentDigits? cs).map fun (e, rest) => (some e, rest)
  | cs => some (none, cs)

/-- A number and what follows it. -/
def number? (cs : List Char) : Option (Number × List Char) := do
  let (negative, cs) := match cs with
    | '-' :: r => (true, r)
    | r => (false, r)
  let (whole, cs) ← wholePart? cs
  let (fraction, cs) ← fractionPart? cs
  let (exponent, cs) ← exponentPart? cs
  some (⟨negative, whole, fraction, exponent⟩, cs)

/-! ### Strings -/

/-- A character of a string, or sixteen bits that an escape gives in hexadecimal digits. -/
inductive Piece where
  | plain (c : Char)
  | unit (n : Nat)
deriving DecidableEq, Repr

/-- The value of a hexadecimal digit of either case. -/
def hexValue? (c : Char) : Option Nat :=
  if '0' ≤ c ∧ c ≤ '9' then some (c.toNat - 48)
  else if 'a' ≤ c ∧ c ≤ 'f' then some (c.toNat - 87)
  else if 'A' ≤ c ∧ c ≤ 'F' then some (c.toNat - 55)
  else none

/-- The number that four hexadecimal digits denote. -/
def unit? (a b c d : Char) : Option Nat := do
  some (4096 * (← hexValue? a) + 256 * (← hexValue? b) + 16 * (← hexValue? c) + (← hexValue? d))

/-- The character that a backslash and a letter stand for. -/
def shortEscape? : Char → Option Char
  | '"' => some '"'
  | '\\' => some '\\'
  | '/' => some '/'
  | 'b' => some '\x08'
  | 'f' => some '\x0c'
  | 'n' => some '\n'
  | 'r' => some '\r'
  | 't' => some '\t'
  | _ => none

/-- The pieces of a string up to its closing quote, and what follows it. -/
def pieces? : List Char → Option (List Piece × List Char)
  | [] => none
  | '"' :: rest => some ([], rest)
  | '\\' :: 'u' :: a :: b :: c :: d :: rest =>
    match unit? a b c d with
    | some n => (pieces? rest).map fun (ps, r) => (.unit n :: ps, r)
    | none => none
  | '\\' :: e :: rest =>
    match shortEscape? e with
    | some c => (pieces? rest).map fun (ps, r) => (.plain c :: ps, r)
    | none => none
  | c :: rest =>
    if c = '\\' ∨ c.toNat < 0x20 then none
    else (pieces? rest).map fun (ps, r) => (.plain c :: ps, r)

/-- The text that pieces make up: a pair of surrogates is one character, one alone is none. -/
def assemble? : List Piece → Option (List Char)
  | [] => some []
  | .plain c :: ps => (assemble? ps).map (c :: ·)
  | .unit n :: ps =>
    if n < 0xd800 ∨ 0xdfff < n then (assemble? ps).map (Char.ofNat n :: ·)
    else if 0xdc00 ≤ n then none
    else
      match ps with
      | .unit m :: rest =>
        if 0xdc00 ≤ m ∧ m ≤ 0xdfff then
          (assemble? rest).map (Char.ofNat (0x10000 + 1024 * (n - 0xd800) + (m - 0xdc00)) :: ·)
        else none
      | _ => none

/-- A string after its opening quote, and what follows it. -/
def string? (cs : List Char) : Option (Option String × List Char) := do
  let (ps, rest) ← pieces? cs
  some ((assemble? ps).map String.ofList, rest)

/-! ### Values -/

/-- What follows a literal name, if the text starts with it. -/
def literal? (name cs : List Char) : Option (List Char) :=
  if name.isPrefixOf cs then some (cs.drop name.length) else none

/-- A value that is read, and what follows it; nothing follows where the text breaks off. -/
abbrev Read (α : Type) := α × Option (List Char)

/-- A value without parts. -/
def scalar (cs : List Char) : Read Tree :=
  match cs with
  | '"' :: rest =>
    match string? rest with
    | some (s, r) => (.text s, some r)
    | none => (.broken, none)
  | 'n' :: _ => (literal? ['n', 'u', 'l', 'l'] cs).elim (.broken, none) fun r => (.null, some r)
  | 't' :: _ =>
    (literal? ['t', 'r', 'u', 'e'] cs).elim (.broken, none) fun r => (.flag true, some r)
  | 'f' :: _ =>
    (literal? ['f', 'a', 'l', 's', 'e'] cs).elim (.broken, none) fun r => (.flag false, some r)
  | _ => (number? cs).elim (.broken, none) fun (n, r) => (.number n, some r)

mutual

/-- A value, after white space. The fuel bounds the number of steps. -/
def value (fuel : Nat) (cs : List Char) : Read Tree :=
  match fuel with
  | 0 => (.broken, none)
  | fuel + 1 =>
    match skipSpace cs with
    | '[' :: rest =>
      let ((items, closed), after) := items fuel true rest
      (.array items closed, after)
    | '\x7b' :: rest =>
      let ((members, closed), after) := members fuel true rest
      (.object members closed, after)
    | cs => scalar cs

/-- The rest of an array, after its bracket or after an item. -/
def items (fuel : Nat) (first : Bool) (cs : List Char) : Read (List Tree × Bool) :=
  match fuel with
  | 0 => (([], false), none)
  | fuel + 1 =>
    let item (cs : List Char) : Read (List Tree × Bool) :=
      match value fuel cs with
      | (t, none) => (([t], false), none)
      | (t, some rest) =>
        let ((ts, closed), after) := items fuel false rest
        ((t :: ts, closed), after)
    match skipSpace cs with
    | ']' :: rest => (([], true), some rest)
    | ',' :: rest => if first then (([], false), none) else item rest
    | cs => if first then item cs else (([], false), none)

/-- The rest of an object, after its brace or after a member. -/
def members (fuel : Nat) (first : Bool) (cs : List Char) :
    Read (List (Option String × Tree) × Bool) :=
  match fuel with
  | 0 => (([], false), none)
  | fuel + 1 =>
    let member (cs : List Char) : Read (List (Option String × Tree) × Bool) :=
      match skipSpace cs with
      | '"' :: rest =>
        match string? rest with
        | none => (([], false), none)
        | some (name, rest) =>
          match skipSpace rest with
          | ':' :: rest =>
            match value fuel rest with
            | (t, none) => (([(name, t)], false), none)
            | (t, some rest) =>
              let ((ms, closed), after) := members fuel false rest
              (((name, t) :: ms, closed), after)
          | _ => (([(name, .broken)], false), none)
      | _ => (([], false), none)
    match skipSpace cs with
    | '\x7d' :: rest => (([], true), some rest)
    | ',' :: rest => if first then (([], false), none) else member rest
    | cs => if first then member cs else (([], false), none)

end

/-- The value that a text holds. -/
def Document.ofText (s : String) : Document :=
  let cs := s.toList
  match value (2 * cs.length + 2) cs with
  | (tree, none) => ⟨tree, false⟩
  | (tree, some rest) => ⟨tree, (skipSpace rest).isEmpty⟩

end Quorum.Json
