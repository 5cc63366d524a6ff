import Quorum.Text.Digits

/-!
# The shortest decimal text of a double

A double is written with the fewest digits that still read back as it; of those the digits nearest
to its exact value are taken.
-/

namespace Quorum.Text.Shortest

/-- A positive double `mantissa * 2 ^ exponent`; `narrow` says that the doubles below it lie twice
as close as those above. -/
structure Binary where
  mantissa : Nat
  exponent : Int
  narrow : Bool

/-- The parts of a finite double that is not zero, given by its bits. -/
def Binary.ofBits (bits : UInt64) : Binary :=
  let field : Nat := bits.toNat / Nat.pow 2 52 % 2048
  let tail : Nat := bits.toNat % Nat.pow 2 52
  if field = 0 then ⟨tail, -1074, false⟩
  else ⟨Nat.pow 2 52 + tail, (field : Int) - 1075, tail = 0 && 1 < field⟩

/-- `4 * mantissa * 2 ^ (exponent - 2)` as a fraction: the two numbers that quarters of the last
binary place are multiplied by and divided by. -/
def Binary.quarter (b : Binary) : Nat × Nat :=
  let e := b.exponent - 2
  (Nat.pow 2 e.toNat, Nat.pow 2 (-e).toNat)

/-- The exponent of ten of the first digit. -/
def Binary.leadingPower (b : Binary) : Int :=
  let (up, down) := b.quarter
  let value := 4 * b.mantissa * up
  if down ≤ value then (digits (value / down)).length - 1
  else
    match (List.range 400).find? fun j => down ≤ value * Nat.pow 10 (j + 1) with
    | some j => -(j + 1)
    | none => 0

/-- The multiple of `10 ^ place` nearest to the value, as a number of steps, if one reads back. -/
def Binary.nearest? (b : Binary) (place : Int) : Option Nat :=
  let (up, down) := b.quarter
  let step := Nat.pow 10 place.toNat * down
  let unit := up * Nat.pow 10 (-place).toNat
  let value := 4 * b.mantissa
  let lower := value - if b.narrow then 1 else 2
  let upper := value + 2
  let closed := b.mantissa % 2 = 0
  let readsBack (d : Nat) : Bool :=
    (lower * unit < d * step && d * step < upper * unit)
      || (closed && (d * step == lower * unit || d * step == upper * unit))
  let below := value * unit / step
  let above := below + 1
  let nearer := 2 * (value * unit) < (below + above) * step
    || (2 * (value * unit) == (below + above) * step && below % 2 == 0)
  match 0 < below && readsBack below, readsBack above with
  | true, true => some (if nearer then below else above)
  | true, false => some below
  | false, true => some above
  | false, false => none

/-- The shortest digits, without zeros at the end, and the power of ten of the first one. -/
def Binary.shortest (b : Binary) : List Char × Int :=
  let power := b.leadingPower
  let found := (List.range 17).findSome? fun (n : Nat) =>
    (b.nearest? (power - (n : Int))).map fun d => (d, n)
  match found with
  | none => (['0'], 0)
  | some (d, n) =>
    let ds := digits d
    let kept := (ds.reverse.dropWhile (· = '0')).reverse
    (kept, power + (ds.length - (n + 1)))

/-- How decimal digits are laid out as text. -/
structure Layout where
  /-- Powers of the first digit from `leastPlain` to `mostPlain` are written without exponent. -/
  leastPlain : Int
  mostPlain : Int

/-- Digits without an exponent, with at least one after the point. -/
def plainText (ds : List Char) (power : Int) : List Char :=
  if power < 0 then '0' :: '.' :: List.replicate ((-power).toNat - 1) '0' ++ ds
  else
    let whole := power.toNat + 1
    let after := ds.drop whole
    ds.take whole ++ List.replicate (whole - ds.length) '0'
      ++ '.' :: if after = [] then ['0'] else after

/-- Digits with an exponent of a sign and the digits that it needs. -/
def exponentText (ds : List Char) (power : Int) : List Char :=
  let rest := ds.drop 1
  ds.take 1 ++ (if rest = [] then [] else '.' :: rest)
    ++ 'e' :: (if power < 0 then '-' else '+') :: digits power.natAbs

/-- The text of a finite double in a layout. -/
def format (layout : Layout) (x : Float) : String :=
  let bits := x.toBits
  let negative := decide (Nat.pow 2 63 ≤ bits.toNat)
  let body :=
    if bits.toNat % Nat.pow 2 63 = 0 then ['0', '.', '0']
    else
      let (ds, power) := (Binary.ofBits bits).shortest
      if layout.leastPlain ≤ power ∧ power ≤ layout.mostPlain then plainText ds power
      else exponentText ds power
  String.ofList (if negative then '-' :: body else body)

end Quorum.Text.Shortest
