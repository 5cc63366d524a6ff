import Quorum.Text.Digits
import Quorum.Time.Date

/-!
# Time stamps

An instant is a date and a time of day in universal time, to the nanosecond. A leap second is the
second after `59`, counted in the nanoseconds of the second before it.
-/

namespace Quorum.Time

/-- A date with a time of day. -/
structure Civil where
  date : Date
  hour : Nat
  minute : Nat
  second : Nat
  nano : Nat
deriving DecidableEq, Repr

/-- Whether all parts are in range; only second 59 can be followed by a leap second. -/
def Civil.Valid (c : Civil) : Prop :=
  c.date.Valid ∧ c.hour < 24 ∧ c.minute < 60 ∧ c.second < 60 ∧ c.nano < 2000000000
    ∧ (1000000000 ≤ c.nano → c.second = 59)

instance (c : Civil) : Decidable c.Valid := by unfold Civil.Valid; infer_instance

/-- A valid date with a time of day, in universal time. -/
structure Instant where
  civil : Civil
  valid : civil.Valid
deriving DecidableEq

namespace Instant

/-- The instant of a date with a time of day, if they are valid. -/
def ofCivil? (c : Civil) : Option Instant :=
  if h : c.Valid then some ⟨c, h⟩ else none

/-! ### Text -/

/-- Four digits, or a sign and at least four digits for a year outside of `0` to `9999`. -/
def yearText (year : Int) : List Char :=
  if 0 ≤ year ∧ year ≤ 9999 then Text.paddedDigits 4 year.toNat
  else (if year < 0 then '-' else '+') :: Text.paddedDigits 4 year.natAbs

def dateText (d : Date) : List Char :=
  yearText d.year ++ '-' :: Text.paddedDigits 2 d.month ++ '-' :: Text.paddedDigits 2 d.day

/-- Hours, minutes and seconds; a leap second is written as `60`. -/
def clockText (c : Civil) : List Char :=
  let second := if c.nano < 1000000000 then c.second else c.second + 1
  Text.paddedDigits 2 c.hour ++ ':' :: Text.paddedDigits 2 c.minute
    ++ ':' :: Text.paddedDigits 2 second

/-- The fraction of the second in no, three, six or nine digits, the fewest that are exact. -/
def fractionText (nano : Nat) : List Char :=
  let n := nano % 1000000000
  if n = 0 then []
  else if n % 1000000 = 0 then '.' :: Text.paddedDigits 3 (n / 1000000)
  else if n % 1000 = 0 then '.' :: Text.paddedDigits 6 (n / 1000)
  else '.' :: Text.paddedDigits 9 n

/-- Date and time joined by `T`, without the zone. -/
def stampText (i : Instant) : List Char :=
  dateText i.civil.date ++ 'T' :: clockText i.civil ++ fractionText i.civil.nano

/-- The form in which time stamps are stored, with `Z` for universal time. -/
def render (i : Instant) : String :=
  String.ofList (i.stampText ++ ['Z'])

/-- The form with a numeric zone. -/
def renderOffset (i : Instant) : String :=
  String.ofList (i.stampText ++ ['+', '0', '0', ':', '0', '0'])

/-- The form for people to read: date, blank and time to the second. -/
def renderPlain (i : Instant) : String :=
  String.ofList (dateText i.civil.date ++ ' ' :: clockText i.civil)

end Instant

end Quorum.Time
