import Quorum.Time.Instant

/-!
# Time stamps by count

An instant as the number of nanoseconds since the start of the year 1970, leap seconds left out.
-/

namespace Quorum.Time

/-- The start of the year 1970. -/
def Instant.epoch : Instant := ⟨⟨⟨1970, 1, 1⟩, 0, 0, 0, 0⟩, by decide⟩

/-- The date a number of days after another. -/
def Date.after (d : Date) (days : Nat) : Date :=
  Nat.repeat Date.next days d

/-- The instant a number of nanoseconds after the epoch, if its year is in range. -/
def Instant.ofNanoseconds? (n : Nat) : Option Instant :=
  let seconds := n / 1000000000
  ofCivil?
    { date := epoch.civil.date.after (seconds / 86400)
      hour := seconds / 3600 % 24
      minute := seconds / 60 % 60
      second := seconds % 60
      nano := n % 1000000000 }

end Quorum.Time
