import Quorum.Json.Tree
import Quorum.Text.Shortest

/-!
# What a number in a JSON text is taken for

An integer of at most sixty-four bits is taken as it is, and every other number for a double, which
may differ in its last places from the number written.
-/

namespace Quorum.Json

/-- What a number is taken for. -/
inductive Quantity where
  /-- An integer from `0` to `2 ^ 64 - 1`. -/
  | natural (n : Nat)
  /-- The negative of an integer from `1` to `2 ^ 63`. -/
  | negative (n : Nat)
  | float (x : Float)

/-- Takes on digits while the number stays below `2 ^ 64`; the second part counts the others. -/
def absorb (significand : Nat) : List Char → Nat × Nat
  | [] => (significand, 0)
  | d :: ds =>
    let next := 10 * significand + Text.digitValue d
    if next < UInt64.size then absorb next ds else (significand, ds.length + 1)

/-- The power of ten as a double. -/
def powerOfTen (n : Nat) : Float :=
  Float.ofScientific 1 false n

/-- `x / 10 ^ n` for great `n`, taken away in steps that doubles can hold. -/
def scaleDown (x : Float) : (steps n : Nat) → Float
  | 0, _ => 0
  | steps + 1, n =>
    if n ≤ 308 then x / powerOfTen n else scaleDown (x / powerOfTen 308) steps (n - 308)

/-- The significand times a power of ten; none if that is infinite. -/
def scaled? (significand : Nat) (power : Int) : Option Float :=
  let x := significand.toUInt64.toFloat
  if significand = 0 then some x
  else if power < 0 then some (scaleDown x 4 (-power).toNat)
  else if power ≤ 308 then
    let y := x * powerOfTen power.toNat
    if y.isInf then none else some y
  else none

namespace Number

/-- The double that a number is taken for; none if it is too great. -/
def toFloat? (n : Number) : Option Float :=
  let (whole, dropped) := absorb 0 n.whole
  let fraction := n.fraction.getD []
  let (significand, ignored) := absorb whole fraction
  let power : Int := dropped - (fraction.length - ignored : Nat)
  let size :=
    match n.exponent with
    | none => scaled? significand power
    | some (negative, ds) =>
      let e : Int := Text.digitsValue ds
      if e ≤ 2147483647 then scaled? significand (if negative then power - e else power + e)
      else if significand = 0 ∨ negative then some 0
      else none
  size.map fun x => if n.negative then -x else x

/-- What the number is taken for; none if it is too great for a double. -/
def quantity? (n : Number) : Option Quantity :=
  let value := Text.digitsValue n.whole
  if n.fraction.isNone ∧ n.exponent.isNone ∧ ¬n.negative ∧ value < UInt64.size then
    some (.natural value)
  else if n.fraction.isNone ∧ n.exponent.isNone ∧ n.negative
      ∧ 1 ≤ value ∧ value ≤ UInt64.size / 2 then
    some (.negative value)
  else n.toFloat?.map .float

end Number

/-- Doubles are shown without an exponent from `10 ^ -5` up to below `10 ^ 16`. -/
def floatLayout : Text.Shortest.Layout where
  leastPlain := -5
  mostPlain := 15

/-- The quantity with its kind, as error texts show it. -/
def Quantity.describe : Quantity → String
  | .natural n => s!"integer `{n}`"
  | .negative n => s!"integer `-{n}`"
  | .float x => "floating point `" ++ Text.Shortest.format floatLayout x ++ "`"

end Quorum.Json
