import Quorum.Text.Blank
import Quorum.Time.Instant

/-!
# Reading of time stamps

A time stamp is a date and a time with a zone. Blanks may stand before each number and each mark,
the date and the time are joined by `T`, `t` or a blank, and the zone is `Z`, `UTC` or an offset in
hours and minutes.
-/

namespace Quorum.Time

/-- Why a text is no time stamp. -/
inductive Error where
  | tooShort
  | badCharacter
  | outOfRange
  /-- Something follows the time stamp. -/
  | trailing
  /-- The date and the time are beyond the calendar once the offset is taken away. -/
  | impossible
deriving DecidableEq, Repr

def Error.message : Error → String
  | .tooShort => "premature end of input"
  | .badCharacter => "input contains invalid characters"
  | .outOfRange => "input is out of range"
  | .trailing => "trailing input"
  | .impossible => "no possible date and time matching input"

namespace Reader

/-- A number of one to `width` digits that stays below `2 ^ 63`. -/
def number (width : Nat) (cs : List Char) : Except Error (Nat × List Char) :=
  let ds := (cs.takeWhile Text.isDigit).take width
  if cs = [] then .error .tooShort
  else if ds = [] then .error .badCharacter
  else if UInt64.size / 2 ≤ Text.digitsValue ds then .error .outOfRange
  else .ok (Text.digitsValue ds, cs.drop ds.length)

/-- A number of at most two digits, after blanks, from `least` to `most`. -/
def part (least most : Nat) (cs : List Char) : Except Error (Nat × List Char) := do
  let (n, rest) ← number 2 (Text.trimStart cs)
  if least ≤ n ∧ n ≤ most then .ok (n, rest) else .error .outOfRange

/-- A year of at most four digits, or of any number of digits after a sign. -/
def year (cs : List Char) : Except Error (Int × List Char) := do
  let (y, rest) ← match Text.trimStart cs with
    | '-' :: ds => (number ds.length ds).map fun (n, r) => (-(n : Int), r)
    | '+' :: ds => (number ds.length ds).map fun (n, r) => ((n : Int), r)
    | ds => (number 4 ds).map fun (n, r) => ((n : Int), r)
  if -2147483648 ≤ y ∧ y ≤ 2147483647 then .ok (y, rest) else .error .outOfRange

/-- A mark, after blanks. -/
def mark (c : Char) (cs : List Char) : Except Error (List Char) :=
  match Text.trimStart cs with
  | [] => .error .tooShort
  | d :: rest => if d = c then .ok rest else .error .badCharacter

/-- The mark between the date and the time. -/
def joint : List Char → Except Error (List Char)
  | [] => .error .tooShort
  | c :: rest => if c = 't' ∨ c = 'T' ∨ c = ' ' then .ok rest else .error .badCharacter

/-- Nanoseconds after a point; digits beyond the ninth are skipped. -/
def fraction : List Char → Except Error (Nat × List Char)
  | '.' :: cs => do
    let (n, rest) ← number 9 cs
    let width := cs.length - rest.length
    .ok (n * Nat.pow 10 (9 - width), rest.dropWhile Text.isDigit)
  | cs => .ok (0, cs)

/-- Two characters that should be digits. One that fills two bytes is enough to be judged. -/
def twoChars : List Char → Except Error (Char × Char × List Char)
  | a :: b :: rest => .ok (a, b, rest)
  | [a] => .error (if a.utf8Size < 2 then .tooShort else .badCharacter)
  | [] => .error .tooShort

/-- Hours and minutes of an offset, which colons and blanks may separate, in minutes. -/
def offsetMinutes (cs : List Char) : Except Error (Nat × List Char) := do
  let (a, b, rest) ← twoChars cs
  if !Text.isDigit a || !Text.isDigit b then .error .badCharacter
  else
    let rest := rest.dropWhile fun c => c = ':' || Text.isBlank c
    let (c, d, rest) ← twoChars rest
    if !Text.isDigit c || !Text.isDigit d then .error .badCharacter
    else if '6' ≤ c then .error .outOfRange
    else .ok (60 * Text.digitsValue [a, b] + Text.digitsValue [c, d], rest)

/-- Whether a text starts with `UTC` in letters of either case. -/
def startsWithUtc (cs : List Char) : Bool :=
  (cs.take 3).map Char.toUpper == ['U', 'T', 'C']

/-- The zone, as minutes ahead of universal time. -/
def zone (cs : List Char) : Except Error (Int × List Char) :=
  let cs := Text.trimStart cs
  if startsWithUtc cs then .ok (0, cs.drop 3)
  else
    match cs with
    | [] => .error .tooShort
    | c :: rest =>
      if c = 'Z' ∨ c = 'z' then .ok (0, rest)
      else if c = '+' then (offsetMinutes rest).map fun (n, r) => ((n : Int), r)
      else if c = '-' ∨ c = '−' then (offsetMinutes rest).map fun (n, r) => (-(n : Int), r)
      else .error .badCharacter

/-! ### From parts to an instant -/

/-- The same moment in universal time, given how many minutes the zone is ahead of it. -/
def Civil.shiftBack (c : Civil) (offset : Int) : Civil :=
  let minutes := (60 * c.hour + c.minute : Int) - offset
  let date :=
    if minutes < 0 then c.date.previous else if minutes < 1440 then c.date else c.date.next
  let inDay := (minutes % 1440).toNat
  { c with date, hour := inDay / 60, minute := inDay % 60 }

/-- The instant of a local date and time; second `60` is a leap second. -/
def assemble (date : Date) (hour minute second nano : Nat) (offset : Int) : Except Error Instant :=
  let civil : Civil :=
    if second = 60 then ⟨date, hour, minute, 59, nano + 1000000000⟩
    else ⟨date, hour, minute, second, nano⟩
  if ¬ civil.Valid ∨ offset ≤ -1440 ∨ 1440 ≤ offset then .error .outOfRange
  else
    match Instant.ofCivil? (Civil.shiftBack civil offset) with
    | some i => .ok i
    | none => .error .impossible

end Reader

open Reader in
/-- Reads a time stamp. -/
def Instant.parse (s : String) : Except Error Instant := do
  let (year, cs) ← year s.toList
  let cs ← mark '-' cs
  let (month, cs) ← part 1 12 cs
  let cs ← mark '-' cs
  let (day, cs) ← part 1 31 cs
  let cs ← joint cs
  let (hour, cs) ← part 0 23 cs
  let cs ← mark ':' cs
  let (minute, cs) ← part 0 59 cs
  let cs ← mark ':' cs
  let (second, cs) ← part 0 60 cs
  let (nano, cs) ← fraction cs
  let (offset, cs) ← zone cs
  if Text.trimStart cs ≠ [] then .error .trailing
  else assemble ⟨year, month, day⟩ hour minute second nano offset

end Quorum.Time
