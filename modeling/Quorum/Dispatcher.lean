import Quorum.Call

/-!
# Dispatchers

A ledger hands the call of a confirmed transaction to a dispatcher and looks only at whether it
succeeded. What the dispatcher keeps for itself is its own business.
-/

namespace Quorum

/-- Why a call was not carried out. -/
inductive DispatchError where
  | insufficientBalance (available needed : Amount)
  /-- The code at the destination refused the call. -/
  | reverted (reason : String)
deriving DecidableEq

def DispatchError.message : DispatchError → String
  | .insufficientBalance available needed =>
    "Insufficient balance: have " ++ available.render ++ ", need " ++ needed.render
  | .reverted reason => "Call reverted: " ++ reason

/-- Something that carries out calls made by an address, with a state of its own. -/
structure Dispatcher (σ : Type) where
  dispatch : σ → (source : Address) → Call → Except DispatchError Unit × σ

end Quorum
