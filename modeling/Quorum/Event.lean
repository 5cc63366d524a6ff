import Quorum.Address
import Quorum.Amount
import Quorum.Time.Instant

/-!
# Events

What happened to a ledger, in the order in which it happened.
-/

namespace Quorum

open Time (Instant)

inductive Event where
  | deposit (source : Address) (amount : Amount)
  | submission (index : Nat) (owner destination : Address) (value : Amount)
  | confirmation (index : Nat) (owner : Address)
  | revocation (index : Nat) (owner : Address)
  | execution (index : Nat)
  | executionFailure (index : Nat) (reason : String)
deriving DecidableEq

/-- The transaction that an event is about. -/
def Event.transactionIndex? : Event → Option Nat
  | .deposit .. => none
  | .submission index .. => some index
  | .confirmation index _ => some index
  | .revocation index _ => some index
  | .execution index => some index
  | .executionFailure index _ => some index

/-- An event with its number in the ledger and its time. -/
structure EventRecord where
  sequence : Nat
  time : Instant
  event : Event
deriving DecidableEq

end Quorum
