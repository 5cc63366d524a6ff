import Quorum.Address
import Quorum.Amount

/-!
# Calls

What a transaction does once it is executed: it sends an amount and a payload to an address.
-/

namespace Quorum

structure Call where
  destination : Address
  value : Amount
  data : List UInt8
deriving DecidableEq

/-- A call without payload only moves funds. -/
def Call.isTransfer (c : Call) : Bool :=
  c.data.isEmpty

end Quorum
