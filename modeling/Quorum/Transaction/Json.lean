import Quorum.Address.Json
import Quorum.Transaction

/-!
# JSON form of calls and transactions

Objects of their fields; what is absent is written as `null`.
-/

namespace Quorum

open Json

/-! ### Calls -/

namespace Call

def toJson (c : Call) : Value :=
  .object [("destination", c.destination.toJson), ("value", c.value.toJson),
    ("data", Payload.toJson c.data)]

/-- The fields of a call, as far as they were read. -/
structure Draft where
  destination : Option Address := none
  value : Option Amount := none
  data : Option (List UInt8) := none

def shape : Shape := { what := "struct Call", fields := ["destination", "value", "data"] }

def Draft.set (index : Nat) (t : Tree) (draft : Draft) : Except Problem Draft :=
  match index with
  | 0 => (Address.decode t).map fun v => { draft with destination := some v }
  | 1 => (amount t).map fun v => { draft with value := some v }
  | _ => (Payload.decode t).map fun v => { draft with data := some v }

def Draft.finish (draft : Draft) : Except Problem Call := do
  let destination ← need "destination" draft.destination
  let value ← need "value" draft.value
  let data ← need "data" draft.data
  .ok ⟨destination, value, data⟩

def decode : Decoder Call :=
  Json.record shape {} Draft.set Draft.finish

end Call

/-! ### Transactions -/

namespace Transaction

def toJson (t : Transaction) : Value :=
  .object [("index", .natural t.index), ("call", t.call.toJson), ("executed", .flag t.executed),
    ("confirmations", t.confirmations.toJson), ("submitted_by", t.submittedBy.toJson),
    ("submitted_at", t.submittedAt.toJson),
    ("executed_at", .optional Time.Instant.toJson t.executedAt),
    ("last_failure", .optional .text t.lastFailure)]

/-- The fields of a transaction, as far as they were read; those that may be missing are absent
from the start. -/
structure Draft where
  index : Option UInt64 := none
  call : Option Call := none
  executed : Option Bool := none
  confirmations : Option AddressSet := none
  submittedBy : Option Address := none
  submittedAt : Option Time.Instant := none
  executedAt : Option Time.Instant := none
  lastFailure : Option String := none

def shape : Shape where
  what := "struct Transaction"
  fields := ["index", "call", "executed", "confirmations", "submitted_by", "submitted_at",
    "executed_at", "last_failure"]

def Draft.set (index : Nat) (t : Tree) (draft : Draft) : Except Problem Draft :=
  match index with
  | 0 => (Json.size t).map fun v => { draft with index := some v }
  | 1 => (Call.decode t).map fun v => { draft with call := some v }
  | 2 => (flag t).map fun v => { draft with executed := some v }
  | 3 => (AddressSet.decode t).map fun v => { draft with confirmations := some v }
  | 4 => (Address.decode t).map fun v => { draft with submittedBy := some v }
  | 5 => (Time.Instant.decode t).map fun v => { draft with submittedAt := some v }
  | 6 => (optional Time.Instant.decode t).map fun v => { draft with executedAt := v }
  | _ => (optional text t).map fun v => { draft with lastFailure := v }

def Draft.finish (draft : Draft) : Except Problem Transaction := do
  let index ← need "index" draft.index
  let call ← need "call" draft.call
  let executed ← need "executed" draft.executed
  let confirmations ← need "confirmations" draft.confirmations
  let submittedBy ← need "submitted_by" draft.submittedBy
  let submittedAt ← need "submitted_at" draft.submittedAt
  .ok { index := index.toNat, call, executed, confirmations, submittedBy, submittedAt,
        executedAt := draft.executedAt, lastFailure := draft.lastFailure }

def decode : Decoder Transaction :=
  Json.record shape {} Draft.set Draft.finish

end Transaction

end Quorum
