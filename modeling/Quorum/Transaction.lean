import Quorum.Address.Set
import Quorum.Call
import Quorum.Time.Instant

/-!
# Transactions

A call that an owner proposed, with the owners who confirm it and what became of it.
-/

namespace Quorum

open Time (Instant)

/-- Where a transaction stands. -/
inductive TransactionStatus where
  | awaitingConfirmations
  /-- Enough owners confirm, but the last attempt to execute the call failed. -/
  | dispatchFailed
  | executed
deriving DecidableEq, Repr

def TransactionStatus.name : TransactionStatus → String
  | .awaitingConfirmations => "AwaitingConfirmations"
  | .dispatchFailed => "DispatchFailed"
  | .executed => "Executed"

structure Transaction where
  /-- The position in the ledger. -/
  index : Nat
  call : Call
  executed : Bool
  confirmations : AddressSet
  submittedBy : Address
  submittedAt : Instant
  executedAt : Option Instant
  /-- Why the last attempt to execute the call failed. -/
  lastFailure : Option String
deriving DecidableEq

namespace Transaction

/-- A new transaction, confirmed by the owner who proposes it. -/
def propose (index : Nat) (call : Call) (owner : Address) (now : Instant) : Transaction where
  index := index
  call := call
  executed := false
  confirmations := AddressSet.empty.insert owner
  submittedBy := owner
  submittedAt := now
  executedAt := none
  lastFailure := none

/-- The number of owners who confirm. -/
def count (t : Transaction) : Nat :=
  t.confirmations.size

def confirm (t : Transaction) (owner : Address) : Transaction :=
  { t with confirmations := t.confirmations.insert owner }

def revoke (t : Transaction) (owner : Address) : Transaction :=
  { t with confirmations := t.confirmations.erase owner }

def markExecuted (t : Transaction) (now : Instant) : Transaction :=
  { t with executed := true, executedAt := some now, lastFailure := none }

def recordFailure (t : Transaction) (reason : String) : Transaction :=
  { t with lastFailure := some reason }

@[simp] theorem propose_call (index : Nat) (call : Call) (owner : Address) (now : Instant) :
    (propose index call owner now).call = call := rfl

@[simp] theorem propose_executed (index : Nat) (call : Call) (owner : Address) (now : Instant) :
    (propose index call owner now).executed = false := rfl

@[simp] theorem mem_confirmations_propose {index : Nat} {call : Call} {owner x : Address}
    {now : Instant} : x ∈ (propose index call owner now).confirmations ↔ x = owner := by
  simp [propose]

@[simp] theorem confirm_call (t : Transaction) (owner : Address) :
    (t.confirm owner).call = t.call := rfl

@[simp] theorem confirm_executed (t : Transaction) (owner : Address) :
    (t.confirm owner).executed = t.executed := rfl

@[simp] theorem mem_confirmations_confirm {t : Transaction} {owner x : Address} :
    x ∈ (t.confirm owner).confirmations ↔ x = owner ∨ x ∈ t.confirmations := by
  simp [confirm]

@[simp] theorem revoke_call (t : Transaction) (owner : Address) :
    (t.revoke owner).call = t.call := rfl

@[simp] theorem revoke_executed (t : Transaction) (owner : Address) :
    (t.revoke owner).executed = t.executed := rfl

@[simp] theorem mem_confirmations_revoke {t : Transaction} {owner x : Address} :
    x ∈ (t.revoke owner).confirmations ↔ x ∈ t.confirmations ∧ x ≠ owner := by
  simp [revoke]

@[simp] theorem markExecuted_call (t : Transaction) (now : Instant) :
    (t.markExecuted now).call = t.call := rfl

@[simp] theorem markExecuted_executed (t : Transaction) (now : Instant) :
    (t.markExecuted now).executed = true := rfl

@[simp] theorem markExecuted_confirmations (t : Transaction) (now : Instant) :
    (t.markExecuted now).confirmations = t.confirmations := rfl

@[simp] theorem recordFailure_call (t : Transaction) (reason : String) :
    (t.recordFailure reason).call = t.call := rfl

@[simp] theorem recordFailure_executed (t : Transaction) (reason : String) :
    (t.recordFailure reason).executed = t.executed := rfl

@[simp] theorem recordFailure_confirmations (t : Transaction) (reason : String) :
    (t.recordFailure reason).confirmations = t.confirmations := rfl

/-- Where the transaction stands if `required` confirmations are needed. -/
def status (t : Transaction) (required : Nat) : TransactionStatus :=
  if t.executed then .executed
  else if required ≤ t.count ∧ t.lastFailure.isSome then .dispatchFailed
  else .awaitingConfirmations

end Transaction

end Quorum
