import Quorum.Address.Json
import Quorum.Event

/-!
# JSON form of events

An event is an object of one member: its name tells the kind, its value holds the fields.
-/

namespace Quorum

open Json

namespace Event

/-- The name of the kind, and the fields. -/
def toJson : Event → Value
  | .deposit source amount =>
    .object [("Deposit", .object [("from", source.toJson), ("amount", amount.toJson)])]
  | .submission index owner destination value =>
    .object [("Submission", .object [("index", .natural index), ("owner", owner.toJson),
      ("destination", destination.toJson), ("value", value.toJson)])]
  | .confirmation index owner =>
    .object [("Confirmation", .object [("index", .natural index), ("owner", owner.toJson)])]
  | .revocation index owner =>
    .object [("Revocation", .object [("index", .natural index), ("owner", owner.toJson)])]
  | .execution index => .object [("Execution", .object [("index", .natural index)])]
  | .executionFailure index reason =>
    .object [("ExecutionFailure", .object [("index", .natural index), ("reason", .text reason)])]

def names : List String :=
  ["Deposit", "Submission", "Confirmation", "Revocation", "Execution", "ExecutionFailure"]

/-- The fields of an event of any kind, as far as they were read. -/
structure Draft where
  source : Option Address := none
  amount : Option Amount := none
  index : Option UInt64 := none
  owner : Option Address := none
  destination : Option Address := none
  value : Option Amount := none
  reason : Option String := none

/-- Puts the field of a given name into the draft. -/
def Draft.put (name : String) (t : Tree) (draft : Draft) : Except Problem Draft :=
  match name with
  | "from" => (Address.decode t).map fun v => { draft with source := some v }
  | "amount" => (Json.amount t).map fun v => { draft with amount := some v }
  | "index" => (Json.size t).map fun v => { draft with index := some v }
  | "owner" => (Address.decode t).map fun v => { draft with owner := some v }
  | "destination" => (Address.decode t).map fun v => { draft with destination := some v }
  | "value" => (Json.amount t).map fun v => { draft with value := some v }
  | _ => (text t).map fun v => { draft with reason := some v }

/-- The fields of one kind of event, in order. -/
def fieldsOf (kind : String) : List String :=
  match kind with
  | "Deposit" => ["from", "amount"]
  | "Submission" => ["index", "owner", "destination", "value"]
  | "Confirmation" => ["index", "owner"]
  | "Revocation" => ["index", "owner"]
  | "Execution" => ["index"]
  | _ => ["index", "reason"]

/-- The event of one kind that the draft makes up. -/
def Draft.finish (kind : String) (draft : Draft) : Except Problem Event :=
  match kind with
  | "Deposit" => do
    let source ← need "from" draft.source
    let amount ← need "amount" draft.amount
    .ok (.deposit source amount)
  | "Submission" => do
    let index ← need "index" draft.index
    let owner ← need "owner" draft.owner
    let destination ← need "destination" draft.destination
    let value ← need "value" draft.value
    .ok (.submission index.toNat owner destination value)
  | "Confirmation" => do
    let index ← need "index" draft.index
    let owner ← need "owner" draft.owner
    .ok (.confirmation index.toNat owner)
  | "Revocation" => do
    let index ← need "index" draft.index
    let owner ← need "owner" draft.owner
    .ok (.revocation index.toNat owner)
  | "Execution" => do
    let index ← need "index" draft.index
    .ok (.execution index.toNat)
  | _ => do
    let index ← need "index" draft.index
    let reason ← need "reason" draft.reason
    .ok (.executionFailure index.toNat reason)

/-- The fields of an event of one kind. -/
def decodeFields (kind : String) : Decoder Event :=
  let fields := fieldsOf kind
  record { what := "struct variant LedgerEvent::" ++ kind, fields } {}
    (fun i t draft => draft.put (fields.getD i "") t) (Draft.finish kind)

def decode : Decoder Event :=
  alternative names decodeFields

end Event

/-! ### Records -/

namespace EventRecord

def toJson (r : EventRecord) : Value :=
  .object [("sequence", .natural r.sequence), ("at", r.time.toJson), ("event", r.event.toJson)]

/-- The fields of a record, as far as they were read. -/
structure Draft where
  sequence : Option UInt64 := none
  time : Option Time.Instant := none
  event : Option Event := none

def shape : Shape := { what := "struct EventRecord", fields := ["sequence", "at", "event"] }

def Draft.set (index : Nat) (t : Tree) (draft : Draft) : Except Problem Draft :=
  match index with
  | 0 => (Json.word t).map fun v => { draft with sequence := some v }
  | 1 => (Time.Instant.decode t).map fun v => { draft with time := some v }
  | _ => (Event.decode t).map fun v => { draft with event := some v }

def Draft.finish (draft : Draft) : Except Problem EventRecord := do
  let sequence ← need "sequence" draft.sequence
  let time ← need "at" draft.time
  let event ← need "event" draft.event
  .ok ⟨sequence.toNat, time, event⟩

def decode : Decoder EventRecord :=
  Json.record shape {} Draft.set Draft.finish

end EventRecord

end Quorum
