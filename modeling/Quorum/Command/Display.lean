import Quorum.Workspace

/-!
# What commands print

The lines that show a wallet to people: amounts in whole coins, addresses mostly in short form, and
times to the second.
-/

namespace Quorum

/-- What happened, in one line. -/
def Event.summary : Event → String
  | .deposit source amount =>
    "Deposit " ++ amount.formatNative ++ " from " ++ source.short
  | .submission index owner destination value =>
    s!"Submission #{index} by " ++ owner.short ++ ": " ++ value.formatNative ++ " to "
      ++ destination.short
  | .confirmation index owner => s!"Confirmation #{index} by " ++ owner.short
  | .revocation index owner => s!"Revocation #{index} by " ++ owner.short
  | .execution index => s!"Execution #{index}"
  | .executionFailure index reason => s!"ExecutionFailure #{index}: " ++ reason

def TransactionStatus.display : TransactionStatus → String
  | .executed => "✅ Executed"
  | .dispatchFailed => "❌ Dispatch failed"
  | .awaitingConfirmations => "⏳ Awaiting confirmations"

/-- How many of the required confirmations a transaction has. -/
def Ledger.progress (l : Ledger) (count : Nat) : String :=
  s!"{count}/{l.required}"

namespace Command

/-- A number at the right end of a column of four characters. -/
def column (n : Nat) : String :=
  let text := toString n
  "".pushn ' ' (4 - text.length) ++ text

/-- A transaction with its confirmations and its history. -/
def transactionLines (l : Ledger) (t : Transaction) (confirmed : List Address) : List String :=
  [s!"📄 Transaction {t.index}",
   "   ├─ Status: " ++ (t.status l.required).display,
   "   ├─ Destination: " ++ t.call.destination.render,
   "   ├─ Value: " ++ t.call.value.formatNative,
   "   ├─ Data: " ++ Payload.render t.call.data,
   "   ├─ Submitted by: " ++ t.submittedBy.render,
   "   ├─ Submitted at: " ++ t.submittedAt.renderPlain]
    ++ (t.lastFailure.map ("   ├─ Last failure: " ++ ·)).toList
    ++ ["   └─ Confirmations: " ++ l.progress t.count]
    ++ confirmed.map (fun owner => "      └─ " ++ owner.render)
    ++ ["   📜 History:"]
    ++ (l.history t.index).map fun r =>
      "      " ++ r.time.renderPlain ++ " | " ++ r.event.summary

/-- The transactions that are not executed; a cross marks those whose last attempt failed. -/
def pendingLines (l : Ledger) : List String :=
  match l.pending with
  | [] => ["📭 No pending transactions"]
  | pending =>
    s!"📬 Pending transactions: {pending.length}" :: pending.map fun t =>
      s!"   #{t.index} | " ++ t.call.value.formatNative ++ " → " ++ t.call.destination.short
        ++ " | " ++ l.progress t.count ++ (if t.lastFailure.isSome then " ❌" else "")

/-- The state of a workspace; a key marks the owners who can act here. -/
def statusLines (s : Workspace) (d : Disk) : List String :=
  let status := s.wallet.ledger.status
  let size := s.storage.ledgerSize d
  let backups := (s.storage.backups d).length
  ["🔐 Multisig Ledger",
   "   ├─ Address: " ++ status.address.render,
   "   ├─ Policy: " ++ s.wallet.ledger.owners.description,
   "   ├─ Balance: " ++ s.wallet.balance.formatNative,
   s!"   ├─ Transactions: {status.transactionCount}",
   s!"   ├─ Pending: {status.pending}",
   s!"   ├─ Executed: {status.executed}",
   s!"   ├─ Storage: {size} bytes, {backups} backup(s)",
   "   ├─ Holdings:"]
    ++ s.wallet.treasury.holdings.map (fun h =>
      "   │  └─ " ++ h.1.render ++ ": " ++ h.2.formatNative)
    ++ "   └─ Owners:" :: status.owners.map fun owner =>
      "      └─ " ++ owner.render ++ (if (s.keystore.load owner d).isOk then " 🔑" else "")

/-- The last events, at most `limit` of them. -/
def eventLines (l : Ledger) (limit : Nat) : List String :=
  s!"📜 Events ({l.events.length} total):" :: (l.events.drop (l.events.length - limit)).map fun r =>
    "   " ++ column r.sequence ++ " | " ++ r.time.renderPlain ++ " | " ++ r.event.summary

/-- The owner keys with their labels. -/
def keyLines : List KeyInfo → List String
  | [] => ["📭 No keys found. Create one with: multisig key new"]
  | keys => "📋 Owner keys:" :: keys.map fun k =>
    "   " ++ k.address.render ++ " (" ++ k.label.getD "-" ++ ")"

end Command

end Quorum
