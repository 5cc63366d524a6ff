import Quorum.Dispatcher
import Quorum.Event
import Quorum.OwnerSet
import Quorum.Text.Quoted
import Quorum.Transaction

/-!
# Ledgers

A ledger holds the transactions that the owners of a wallet proposed, and the events that led to
their present state. A transaction is executed in the very operation whose confirmation makes up
the required number.

An operation that is refused changes nothing. When a call fails, the confirmation that led to it
is kept, so that another owner's confirmation tries again.

An operation reads the clock once: the transaction, its events and its execution are stamped with
one and the same time. Where the clock is read for each of them, a later stamp may show a later
time. No operation depends on what the stamps show.
-/

namespace Quorum

open Time (Instant)

structure Ledger where
  owners : OwnerSet
  transactions : List Transaction
  events : List EventRecord
deriving DecidableEq

namespace Ledger

/-- Why an operation did not succeed. -/
inductive Error where
  | notOwner (caller : Address)
  | alreadyConfirmed (index : Nat) (owner : Address)
  | notConfirmed (index : Nat) (owner : Address)
  | alreadyExecuted (index : Nat)
  | executionFailed (index : Nat) (reason : String)
  | invalidIndex (index : Nat)
deriving DecidableEq

/-- Whether the operation was refused before it changed anything. -/
def Error.isRefusal : Error → Bool
  | .executionFailed .. => false
  | _ => true

def Error.message : Error → String
  | .notOwner caller => s!"Not owner: {caller}"
  | .alreadyConfirmed index owner => s!"Transaction {index} already confirmed by {owner}"
  | .notConfirmed index owner => s!"Transaction {index} not confirmed by {owner}"
  | .alreadyExecuted index => s!"Transaction {index} already executed"
  | .executionFailed index reason => s!"Transaction {index} failed: {reason}"
  | .invalidIndex index => s!"Transaction {index} does not exist"

/-- The error with its kind and fields. -/
def Error.dump : Error → String
  | .notOwner caller => "NotOwner(" ++ caller.dump ++ ")"
  | .alreadyConfirmed index owner =>
    s!"AlreadyConfirmed \x7b index: {index}, owner: " ++ owner.dump ++ " \x7d"
  | .notConfirmed index owner =>
    s!"NotConfirmed \x7b index: {index}, owner: " ++ owner.dump ++ " \x7d"
  | .alreadyExecuted index => s!"AlreadyExecuted({index})"
  | .executionFailed index reason =>
    s!"ExecutionFailed \x7b index: {index}, reason: " ++ Text.quoted reason ++ " \x7d"
  | .invalidIndex index => s!"InvalidIndex({index})"

/-- A ledger without transactions. -/
def create (owners : OwnerSet) : Ledger := ⟨owners, [], []⟩

/-- The address of the wallet that the ledger governs. -/
def address (l : Ledger) : Address :=
  l.owners.walletAddress

/-- The number of confirmations that a transaction needs. -/
def required (l : Ledger) : Nat :=
  l.owners.threshold

/-! ### Operations -/

/-- Adds an event at the end of the log. -/
def record (l : Ledger) (now : Instant) (event : Event) : Ledger :=
  { l with events := l.events ++ [⟨l.events.length, now, event⟩] }

/-- Puts a transaction in place of the one with its position. -/
def replace (l : Ledger) (index : Nat) (t : Transaction) : Ledger :=
  { l with transactions := l.transactions.set index t }

@[simp] theorem owners_record (l : Ledger) (now : Instant) (event : Event) :
    (l.record now event).owners = l.owners := rfl

@[simp] theorem address_record (l : Ledger) (now : Instant) (event : Event) :
    (l.record now event).address = l.address := rfl

@[simp] theorem required_record (l : Ledger) (now : Instant) (event : Event) :
    (l.record now event).required = l.required := rfl

@[simp] theorem transactions_record (l : Ledger) (now : Instant) (event : Event) :
    (l.record now event).transactions = l.transactions := rfl

@[simp] theorem events_record (l : Ledger) (now : Instant) (event : Event) :
    (l.record now event).events = l.events ++ [⟨l.events.length, now, event⟩] := rfl

@[simp] theorem owners_replace (l : Ledger) (index : Nat) (t : Transaction) :
    (l.replace index t).owners = l.owners := rfl

@[simp] theorem address_replace (l : Ledger) (index : Nat) (t : Transaction) :
    (l.replace index t).address = l.address := rfl

@[simp] theorem required_replace (l : Ledger) (index : Nat) (t : Transaction) :
    (l.replace index t).required = l.required := rfl

@[simp] theorem transactions_replace (l : Ledger) (index : Nat) (t : Transaction) :
    (l.replace index t).transactions = l.transactions.set index t := rfl

@[simp] theorem events_replace (l : Ledger) (index : Nat) (t : Transaction) :
    (l.replace index t).events = l.events := rfl

/-- What an operation answers, and the ledger and the dispatcher after it. -/
structure Outcome (σ α : Type) where
  result : Except Error α
  ledger : Ledger
  dispatcher : σ

/-- What a confirmation led to. -/
structure Confirmed where
  index : Nat
  executed : Bool
  confirmations : Nat
deriving DecidableEq

variable {σ : Type} (d : Dispatcher σ)

/-- Executes a transaction if enough owners confirm it; answers whether it was executed. -/
def executeIfReady (l : Ledger) (st : σ) (now : Instant) (index : Nat) (t : Transaction) :
    Outcome σ Bool :=
  if t.executed ∨ t.count < l.required then ⟨.ok false, l, st⟩
  else
    match d.dispatch st l.address t.call with
    | (.ok (), st) =>
      ⟨.ok true, (l.replace index (t.markExecuted now)).record now (.execution index), st⟩
    | (.error e, st) =>
      let reason := e.message
      ⟨.error (.executionFailed index reason),
        (l.replace index (t.recordFailure reason)).record now (.executionFailure index reason), st⟩

/-- Proposes a call. The owner who proposes it confirms it as well. -/
def submit (l : Ledger) (st : σ) (now : Instant) (caller : Address) (call : Call) :
    Outcome σ Nat :=
  if !l.owners.contains caller then ⟨.error (.notOwner caller), l, st⟩
  else
    let index := l.transactions.length
    let t := Transaction.propose index call caller now
    let l := { l with transactions := l.transactions ++ [t] }
    let l := l.record now (.submission index caller call.destination call.value)
    let l := l.record now (.confirmation index caller)
    let out := l.executeIfReady d st now index t
    ⟨out.result.map fun _ => index, out.ledger, out.dispatcher⟩

/-- The transaction at a position, if it can still change. -/
def openTransaction (l : Ledger) (index : Nat) : Except Error Transaction :=
  match l.transactions[index]? with
  | none => .error (.invalidIndex index)
  | some t => if t.executed then .error (.alreadyExecuted index) else .ok t

/-- Confirms a transaction, which is executed if that makes up the required number. -/
def confirm (l : Ledger) (st : σ) (now : Instant) (caller : Address) (index : Nat) :
    Outcome σ Confirmed :=
  if !l.owners.contains caller then ⟨.error (.notOwner caller), l, st⟩
  else
    match l.openTransaction index with
    | .error e => ⟨.error e, l, st⟩
    | .ok t =>
      if t.confirmations.contains caller then ⟨.error (.alreadyConfirmed index caller), l, st⟩
      else
        let t := t.confirm caller
        let l := (l.replace index t).record now (.confirmation index caller)
        let out := l.executeIfReady d st now index t
        ⟨out.result.map fun executed => ⟨index, executed, t.count⟩, out.ledger, out.dispatcher⟩

/-- Takes back a confirmation; answers how many are left. -/
def revoke (l : Ledger) (now : Instant) (caller : Address) (index : Nat) :
    Except Error Nat × Ledger :=
  if !l.owners.contains caller then (.error (.notOwner caller), l)
  else
    match l.openTransaction index with
    | .error e => (.error e, l)
    | .ok t =>
      if t.confirmations.contains caller then
        let t := t.revoke caller
        (.ok t.count, (l.replace index t).record now (.revocation index caller))
      else (.error (.notConfirmed index caller), l)

/-- Notes in the log that funds came in. -/
def recordDeposit (l : Ledger) (now : Instant) (source : Address) (amount : Amount) : Ledger :=
  l.record now (.deposit source amount)

/-! ### Reads -/

/-- The transaction at a position. -/
def transaction (l : Ledger) (index : Nat) : Except Error Transaction :=
  match l.transactions[index]? with
  | none => .error (.invalidIndex index)
  | some t => .ok t

/-- The owners who confirm a transaction, in the order of the owner set. -/
def confirmations (l : Ledger) (index : Nat) : Except Error (List Address) :=
  (l.transaction index).map fun t => l.owners.owners.filter t.confirmations.contains

def isConfirmed (l : Ledger) (index : Nat) (owner : Address) : Except Error Bool :=
  (l.transaction index).map (·.confirmations.contains owner)

/-- The transactions that are not executed. -/
def pending (l : Ledger) : List Transaction :=
  l.transactions.filter (!·.executed)

/-- The events about one transaction. -/
def history (l : Ledger) (index : Nat) : List EventRecord :=
  l.events.filter (·.event.transactionIndex? = some index)

/-- The state of a ledger in numbers. -/
structure Status where
  address : Address
  owners : List Address
  required : Nat
  transactionCount : Nat
  pending : Nat
  executed : Nat
deriving DecidableEq

def status (l : Ledger) : Status :=
  let executed := l.transactions.countP (·.executed)
  { address := l.address
    owners := l.owners.owners
    required := l.required
    transactionCount := l.transactions.length
    pending := l.transactions.length - executed
    executed := executed }

end Ledger

end Quorum
