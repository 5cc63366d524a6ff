import Quorum.Event.Json
import Quorum.Ledger
import Quorum.OwnerSet.Json
import Quorum.Transaction.Json

/-!
# JSON form of ledgers

The address is written along with the owners that determine it. A ledger is read only if address,
positions, submitters and confirmers fit its owner set.
-/

namespace Quorum.Ledger

open Json

def toJson (l : Ledger) : Value :=
  .object [("owners", l.owners.toJson), ("address", l.address.toJson),
    ("transactions", .array (l.transactions.map Transaction.toJson)),
    ("events", .array (l.events.map EventRecord.toJson))]

def Status.toJson (s : Status) : Value :=
  .object [("address", s.address.toJson), ("owners", .array (s.owners.map Address.toJson)),
    ("required", .natural s.required), ("transaction_count", .natural s.transactionCount),
    ("pending", .natural s.pending), ("executed", .natural s.executed)]

/-! ### Soundness of what is read -/

/-- Why transactions do not belong to an owner set. -/
inductive Corruption where
  | foreignAddress (found expected : Address)
  | misplaced (position index : Nat)
  | submittedByStranger (index : Nat) (stranger : Address)
  | confirmedByStranger (index : Nat) (stranger : Address)
deriving DecidableEq

def Corruption.message : Corruption → String
  | .foreignAddress found expected =>
    s!"Corrupt ledger: address {found} does not match owner set (expected {expected})"
  | .misplaced position index =>
    s!"Corrupt ledger: transaction at position {position} has index {index}"
  | .submittedByStranger index stranger =>
    s!"Corrupt ledger: transaction {index} submitted by non-owner {stranger}"
  | .confirmedByStranger index stranger =>
    s!"Corrupt ledger: transaction {index} confirmed by non-owner {stranger}"

/-- The first thing wrong with a transaction at a position. -/
def transactionFault? (owners : OwnerSet) (position : Nat) (t : Transaction) : Option Corruption :=
  if t.index ≠ position then some (.misplaced position t.index)
  else if !owners.contains t.submittedBy then some (.submittedByStranger t.index t.submittedBy)
  else
    (t.confirmations.toList.find? (!owners.contains ·)).map (.confirmedByStranger t.index ·)

/-- The first thing wrong with transactions, the first of which is at `position`. -/
def fault? (owners : OwnerSet) (position : Nat) : List Transaction → Option Corruption
  | [] => none
  | t :: ts =>
    match transactionFault? owners position t with
    | some c => some c
    | none => fault? owners (position + 1) ts

/-- The ledger of its parts, if they belong together. -/
def assemble (owners : OwnerSet) (address : Address) (transactions : List Transaction)
    (events : List EventRecord) : Except Corruption Ledger :=
  if address ≠ owners.walletAddress then
    .error (.foreignAddress address owners.walletAddress)
  else
    match fault? owners 0 transactions with
    | some c => .error c
    | none => .ok ⟨owners, transactions, events⟩

/-! ### Reading -/

/-- The fields of a ledger, as far as they were read; without events there are none. -/
structure Draft where
  owners : Option OwnerSet := none
  address : Option Address := none
  transactions : Option (List Transaction) := none
  events : List EventRecord := []

def shape : Shape where
  what := "struct LedgerRecord"
  fields := ["owners", "address", "transactions", "events"]
  needed := 3

def Draft.set (index : Nat) (t : Tree) (draft : Draft) : Except Problem Draft :=
  match index with
  | 0 => (OwnerSet.decode t).map fun v => { draft with owners := some v }
  | 1 => (Address.decode t).map fun v => { draft with address := some v }
  | 2 => (list Transaction.decode t).map fun v => { draft with transactions := some v }
  | _ => (list EventRecord.decode t).map fun v => { draft with events := v }

def Draft.finish (draft : Draft) : Except Problem Ledger := do
  let owners ← need "owners" draft.owners
  let address ← need "address" draft.address
  let transactions ← need "transactions" draft.transactions
  match assemble owners address transactions draft.events with
  | .ok l => .ok l
  | .error c => refuse c.message

def decode : Decoder Ledger :=
  Json.record shape {} Draft.set Draft.finish

end Quorum.Ledger
