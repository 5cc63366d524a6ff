import Quorum.Text.Blank
import Quorum.Text.Digits
import Quorum.Text.Quoted
import Quorum.Text.Utf8

/-!
# Amounts

An amount counts base units of the native currency, of which a whole coin has `10 ^ 18`. Amounts
stay below `2 ^ 128`; a credit that would go beyond stops at the greatest one.
-/

namespace Quorum

/-- The least number of base units that is too great for an amount. -/
def amountBound : Nat := Nat.pow 2 128

/-- A number of base units. -/
structure Amount where
  units : Nat
  lt_bound : units < amountBound
deriving DecidableEq

namespace Amount

@[ext] theorem ext {a b : Amount} (h : a.units = b.units) : a = b := by
  cases a; cases b; simp_all

instance : OfNat Amount 0 := ⟨⟨0, by decide⟩⟩

@[simp] theorem units_zero : (0 : Amount).units = 0 := rfl

/-- The amount of `n` base units, if that is not too many. -/
def ofNat? (n : Nat) : Option Amount :=
  if h : n < amountBound then some ⟨n, h⟩ else none

/-- The sum of two amounts, or the greatest amount if that is less. -/
def credit (a b : Amount) : Amount :=
  ⟨min (a.units + b.units) (amountBound - 1), by
    have : 0 < amountBound := by decide
    omega⟩

/-- The sum of two amounts, unless it is too great. -/
def add? (a b : Amount) : Option Amount :=
  ofNat? (a.units + b.units)

/-- The product of two amounts, unless it is too great. -/
def mul? (a b : Amount) : Option Amount :=
  ofNat? (a.units * b.units)

/-- What is left of `a` after `b` is taken away; nothing if `b` is more. -/
def debit (a b : Amount) : Amount :=
  ⟨a.units - b.units, by have := a.lt_bound; omega⟩

@[simp] theorem units_credit (a b : Amount) :
    (a.credit b).units = min (a.units + b.units) (amountBound - 1) := rfl

@[simp] theorem units_debit (a b : Amount) : (a.debit b).units = a.units - b.units := rfl

/-- The number of base units in decimal digits. -/
def render (a : Amount) : String :=
  String.ofList (Text.digits a.units)

/-! ### Decimal notation -/

/-- Digits without the zeros at their end, but at least one. -/
def dropTrailingZeros (ds : List Char) : List Char :=
  match ds.reverse.dropWhile (· = '0') with
  | [] => ['0']
  | rest => rest.reverse

/-- The amount in units of `10 ^ decimals`, exactly and with at least one digit after the point.
The unit has to be an amount itself, so that there are thirty-eight decimals at most. -/
def format (a : Amount) (decimals : Nat) : String :=
  let scale := Nat.pow 10 decimals
  let fraction :=
    if decimals = 0 then ['0']
    else dropTrailingZeros (Text.paddedDigits decimals (a.units % scale))
  String.ofList (Text.digits (a.units / scale) ++ '.' :: fraction)

/-- Why a text denotes no amount. -/
inductive Error where
  | empty
  /-- The text, less the blanks around it, is not digits with at most one point. -/
  | notNumber (text : String)
  /-- More digits after the point than the unit has. -/
  | tooManyDecimals (got most : Nat)
  | overflow (text : String)
deriving DecidableEq, Repr

def Error.message : Error → String
  | .empty => "Empty amount"
  | .notNumber text => "Invalid amount: " ++ text
  | .tooManyDecimals got most => s!"Too many decimal places: {got} (max {most})"
  | .overflow text => "Amount overflows: " ++ text

/-- The error with its kind and fields. -/
def Error.dump : Error → String
  | .empty => "Empty"
  | .notNumber text => "InvalidNumber(" ++ Text.quoted text ++ ")"
  | .tooManyDecimals got most => s!"TooManyDecimals \x7b got: {got}, max: {most} \x7d"
  | .overflow text => "Overflow(" ++ Text.quoted text ++ ")"

/-- The parts of a text before and after its first point; without one the second part is empty. -/
def splitPoint (cs : List Char) : List Char × List Char :=
  (cs.takeWhile (· ≠ '.'), (cs.dropWhile (· ≠ '.')).tail)

/-- The amount that digits denote, unless it is too great. -/
def ofDigits? (ds : List Char) : Option Amount :=
  ofNat? (Text.digitsValue ds)

/-- The amount of which `whole` and `fraction` are the digits before and after the point, in units
of `10 ^ decimals`. There is none if the unit, a part, the product or the sum is too great. -/
def ofParts? (whole fraction : List Char) (decimals : Nat) : Option Amount := do
  let unit ← ofNat? (Nat.pow 10 decimals)
  let wholes ← (if whole = [] then some 0 else ofDigits? whole)
  let rest ← (if fraction = [] then some 0 else ofDigits? (fraction.rightpad decimals '0'))
  let product ← wholes.mul? unit
  product.add? rest

/-- Reads an amount in units of `10 ^ decimals`. -/
def parse (s : String) (decimals : Nat) : Except Error Amount :=
  let text := Text.trim s.toList
  let shown := String.ofList text
  let (whole, fraction) := splitPoint text
  if text = [] then .error .empty
  else if (whole = [] ∧ fraction = []) ∨ !whole.all Text.isDigit ∨ !fraction.all Text.isDigit then
    .error (.notNumber shown)
  else if decimals < fraction.length then .error (.tooManyDecimals fraction.length decimals)
  else (ofParts? whole fraction decimals).elim (.error (.overflow shown)) .ok

/-- The decimals of the native currency. -/
def nativeDecimals : Nat := 18

/-- The amount in whole coins. -/
def formatNative (a : Amount) : String :=
  a.format nativeDecimals

/-- Reads an amount in whole coins. -/
def parseNative (s : String) : Except Error Amount :=
  parse s nativeDecimals

end Amount

end Quorum
