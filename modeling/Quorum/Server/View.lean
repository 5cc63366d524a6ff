import Quorum.Server
import Quorum.Wallet.Json

/-!
# What the server shows

The JSON forms in which a client sees the wallet. They are made for reading: amounts are given in
base units and in whole coins, and a transaction tells where it stands.
-/

namespace Quorum.Server

open Json

def ledgerView (w : Wallet) : Value :=
  let status := w.ledger.status
  .object [("address", status.address.toJson),
    ("owners", .array (status.owners.map Address.toJson)),
    ("required", .natural status.required),
    ("description", .text w.ledger.owners.description),
    ("transaction_count", .natural status.transactionCount),
    ("pending", .natural status.pending),
    ("executed", .natural status.executed),
    ("balance", w.balance.toJson),
    ("balance_formatted", .text w.balance.formatNative)]

/-- The owners who confirm a transaction, in the order of the owner set. -/
def confirmedBy (l : Ledger) (t : Transaction) : List Address :=
  (l.confirmations t.index).toOption.getD []

def transactionView (l : Ledger) (t : Transaction) : Value :=
  let stamp (i : Time.Instant) : Value := .text i.renderOffset
  .object [("index", .natural t.index),
    ("destination", t.call.destination.toJson),
    ("value", t.call.value.toJson),
    ("value_formatted", .text t.call.value.formatNative),
    ("data", Payload.toJson t.call.data),
    ("executed", .flag t.executed),
    ("confirmations", .natural t.count),
    ("required", .natural l.required),
    ("confirmed_by", .array ((confirmedBy l t).map Address.toJson)),
    ("status", .text (t.status l.required).name),
    ("submitted_by", t.submittedBy.toJson),
    ("submitted_at", stamp t.submittedAt),
    ("executed_at", .optional stamp t.executedAt),
    ("last_failure", .optional .text t.lastFailure)]

/-- What became of a confirmation or its withdrawal. -/
def outcomeView (l : Ledger) (index : Nat) (executed : Bool) (confirmations : Nat) : Value :=
  .object [("index", .natural index), ("executed", .flag executed),
    ("confirmations", .natural confirmations), ("required", .natural l.required)]

def balanceView (balance : Amount) : Value :=
  .object [("balance", balance.toJson), ("balance_formatted", .text balance.formatNative)]

def eventsView (l : Ledger) : Value :=
  .array (l.events.map EventRecord.toJson)

end Quorum.Server
