import Mathlib.Logic.Basic
import Quorum.Proofs.Audit.Replay
import Quorum.Proofs.Wallet.Run

/-!
# The log of a ledger

From its log alone one can tell what has become of every transaction of a ledger: the log is legal
from start to end, and who follows it knows of each transaction what the ledger knows. Operations
change the transactions and the log apart from each other; each kind of transition is shown to keep
both in step.
-/

namespace Quorum

namespace Audit

/-- What the log should tell about a transaction. -/
def Report.of (t : Transaction) : Report where
  destination := t.call.destination
  value := t.call.value
  submittedBy := t.submittedBy
  confirmations := t.confirmations
  executed := t.executed
  lastFailure := t.lastFailure

variable {ts : List Transaction} {index : Nat} {t : Transaction}

/-- Changes that agree on a transaction and its report agree on the lists of all. -/
lemma modify_map_of (t' : Transaction) {f : Report → Report} (found : ts[index]? = some t)
    (agree : f (.of t) = .of t') :
    (ts.map Report.of).modify index f = (ts.set index t').map Report.of := by
  refine List.ext_getElem? fun j => ?_
  rw [List.getElem?_modify, List.getElem?_map, List.getElem?_map]
  by_cases hj : index = j
  · obtain ⟨inside, _⟩ := List.getElem?_eq_some_iff.mp found
    rw [← hj, found, List.getElem?_set_self inside]
    simp [agree]
  · simp [hj, List.getElem?_set_ne hj]

/-- The outcome of the call is due if enough owners confirm. -/
lemma dueAfter_map_of {owners : OwnerSet} (found : ts[index]? = some t) :
    Replica.dueAfter owners (ts.map Report.of) index
      = if owners.threshold ≤ t.count then .outcome index else .nothing := by
  refine if_congr ?_ rfl rfl
  simp [found, Report.of, Transaction.count]

end Audit

namespace Ledger

open Audit (Due Report Replica replay?)
open Time (Instant)

variable {σ : Type} {d : Dispatcher σ} {l : Ledger} {st : σ} {now : Instant} {op : Operation}

/-- The events without their numbers and times. -/
def log (l : Ledger) : List Event :=
  l.events.map (·.event)

/-- What the log should tell about the transactions. -/
def reports (l : Ledger) : List Report :=
  l.transactions.map .of

/-- The log is legal and tells of the transactions what the ledger knows; `due` has to come next. -/
def Recounted (l : Ledger) (due : Due) : Prop :=
  replay? l.owners l.log = some ⟨l.reports, due⟩

/-- The events are numbered from zero. -/
def Numbered (l : Ledger) : Prop :=
  ∀ (k : Nat) (r : EventRecord), l.events[k]? = some r → r.sequence = k

/-! ### One more event -/

@[simp] lemma log_record (event : Event) : (l.record now event).log = l.log ++ [event] := by
  simp [log]

lemma Numbered.record (h : l.Numbered) (event : Event) : (l.record now event).Numbered := by
  intro k r hr
  rw [events_record, List.getElem?_append] at hr
  split at hr
  · exact h k r hr
  · obtain ⟨inside, rfl⟩ := List.getElem?_eq_some_iff.mp hr
    have last : k = l.events.length := by
      rw [List.length_singleton] at inside
      omega
    simp [last]

/-- A change of the transactions together with the event that tells it. -/
lemma Recounted.record {due due' : Due} {event : Event} {l' : Ledger} (h : l.Recounted due)
    (owners_eq : l'.owners = l.owners) (log_eq : l'.log = l.log)
    (legal : Replica.Legal l.owners ⟨l.reports, due⟩ event)
    (told : Replica.advance l.owners ⟨l.reports, due⟩ event = ⟨l'.reports, due'⟩) :
    (l'.record now event).Recounted due' := by
  rw [Recounted, owners_record, log_record, owners_eq, log_eq,
    Audit.replay?_append_singleton h legal, told]
  rfl

/-- What the log calls for after a confirmation. -/
def Confirmation.due (c : Confirmation) : Due :=
  if c.ledger.required ≤ c.transaction.count then .outcome c.index else .nothing

/-- The ledger adds a transaction with its first confirmation at once, the log tells of one after
the other. -/
lemma Recounted.withProposal {caller : Address} {call : Call} (h : l.Recounted .nothing)
    (owner : caller ∈ l.owners.owners) :
    (l.withProposal now caller call).Recounted
      (if l.required ≤ (Transaction.propose l.transactions.length call caller now).count then
        .outcome l.transactions.length else .nothing) := by
  have length_reports : l.reports.length = l.transactions.length := List.length_map _
  have first := Audit.replay?_append_singleton h
    (e := .submission l.transactions.length caller call.destination call.value)
    ⟨rfl, length_reports.symm⟩
  have second := Audit.replay?_append_singleton first
    (e := .confirmation l.transactions.length caller)
    ⟨.inr rfl, owner, .submitted caller call.destination call.value,
      by simp [Replica.advance, ← length_reports], rfl, AddressSet.not_mem_empty _⟩
  have told : (l.reports ++ [Report.submitted caller call.destination call.value]).modify
      l.transactions.length (·.confirm caller) = (l.withProposal now caller call).reports := by
    rw [← length_reports, List.modify_eq_take_drop, List.take_left, List.drop_left, reports,
      reports, Ledger.withProposal, transactions_record, transactions_record, List.map_append]
    rfl
  have found : (l.withProposal now caller call).transactions[l.transactions.length]?
      = some (.propose l.transactions.length call caller now) := by
    simp [Ledger.withProposal]
  rw [Replica.advance, Replica.advance, told, reports, Audit.dueAfter_map_of found] at second
  have log_eq : (l.withProposal now caller call).log = l.log
      ++ [.submission l.transactions.length caller call.destination call.value]
      ++ [.confirmation l.transactions.length caller] := by
    rw [Ledger.withProposal, log_record, log_record]
    rfl
  rw [Recounted, log_eq]
  exact second

lemma Confirms.recounted {c : Confirmation} {reply : Bool → Reply} (h : Confirms l now op c reply)
    (hl : l.Recounted .nothing) : c.ledger.Recounted c.due := by
  cases h with
  | submit owner => exact hl.withProposal owner
  | @confirm caller index t owner found unexecuted fresh =>
    have inside : l.reports[index]? = some (.of t) := by simp [reports, found]
    have length : index < l.transactions.length := (List.getElem?_eq_some_iff.mp found).1
    refine hl.record rfl rfl ⟨.inl rfl, owner, _, inside, unexecuted, fresh⟩ ?_
    have told := Audit.modify_map_of (t.confirm caller) (f := (·.confirm caller)) found rfl
    rw [Replica.advance, reports, told, Audit.dueAfter_map_of (List.getElem?_set_self length)]
    rfl

lemma Settled.recounted {c : Confirmation} {out : Outcome σ Bool} {attempts : List CallAttempt}
    (h : Settled d st now c out attempts)
    (found : c.ledger.transactions[c.index]? = some c.transaction)
    (unexecuted : c.transaction.executed = false) (hc : c.ledger.Recounted c.due) :
    out.ledger.Recounted .nothing := by
  have inside : c.ledger.reports[c.index]? = some (.of c.transaction) := by simp [reports, found]
  cases h with
  | waits few => rwa [Confirmation.due, if_neg (Nat.not_le.mpr few)] at hc
  | executes enough =>
    rw [Confirmation.due, if_pos enough] at hc
    refine hc.record rfl rfl ⟨rfl, _, inside, unexecuted⟩ ?_
    rw [Replica.advance, reports, Audit.modify_map_of (c.transaction.markExecuted now) found rfl]
    rfl
  | @fails _ e enough =>
    rw [Confirmation.due, if_pos enough] at hc
    refine hc.record rfl rfl ⟨rfl, _, inside, unexecuted⟩ ?_
    rw [Replica.advance, reports,
      Audit.modify_map_of (c.transaction.recordFailure e.message) found rfl]
    rfl

/-- Every operation keeps the log legal and complete. -/
theorem invariant_recounted : Invariant fun l => l.Recounted .nothing := by
  intro σ d l st now op out attempts h hl
  cases h with
  | refuses => exact hl
  | records => exact hl.record rfl rfl rfl rfl
  | confirms recorded settled =>
    exact settled.recounted recorded.getElem?_index recorded.unexecuted (recorded.recounted hl)
  | @revokes caller index t owner found unexecuted confirmed =>
    have inside : l.reports[index]? = some (.of t) := by simp [reports, found]
    refine hl.record rfl rfl ⟨rfl, owner, _, inside, unexecuted, confirmed⟩ ?_
    rw [Replica.advance, reports, Audit.modify_map_of (t.revoke caller) found rfl]
    rfl

/-- Every operation numbers the events it adds. -/
theorem invariant_numbered : Invariant Numbered := by
  intro σ d l st now op out attempts h hl
  cases h with
  | refuses => exact hl
  | records => exact hl.record _
  | revokes => exact Numbered.record (l := l.replace _ _) hl _
  | @confirms _ c _ _ _ recorded settled =>
    have hc : c.ledger.Numbered := by
      cases recorded with
      | submit => exact (Numbered.record (l := { l with transactions := _ }) hl _).record _
      | confirm => exact Numbered.record (l := l.replace _ _) hl _
    cases settled with
    | waits => exact hc
    | executes => exact Numbered.record (l := c.ledger.replace _ _) hc _
    | fails => exact Numbered.record (l := c.ledger.replace _ _) hc _

end Ledger

/-! ### Logs of wallets -/

/-- Along every run of a new wallet, the log is numbered from zero and legal, and calls for nothing
more. Who follows it knows every transaction of the ledger: its destination, value and submitter,
who confirms it, whether it is executed and why its call failed last. The execution of a transaction
is the last event about it. -/
theorem Wallet.log_replays (owners : OwnerSet) (actions : List (Time.Instant × Wallet.Action)) :
    let l := ((Wallet.create owners).run actions).ledger
    (∀ (k : Nat) (r : EventRecord), l.events[k]? = some r → r.sequence = k) ∧
    Audit.replay? owners l.log = some ⟨l.transactions.map .of, .nothing⟩ ∧
    l.log.Pairwise fun e e' => ∀ i, e = .execution i → e'.transactionIndex? ≠ some i := by
  intro l
  have numbered : l.Numbered :=
    Wallet.Invariant.wallet_run Ledger.invariant_numbered
      (fun k r h => by simp [Wallet.create, Ledger.create] at h) actions
  have owners_eq : l.owners = owners :=
    Wallet.Invariant.wallet_run (Ledger.invariant_owners owners) rfl actions
  have recounted : l.Recounted .nothing :=
    Wallet.Invariant.wallet_run Ledger.invariant_recounted
      (show (Ledger.create owners).Recounted .nothing from rfl) actions
  rw [Ledger.Recounted, owners_eq] at recounted
  exact ⟨numbered, recounted, Audit.pairwise_of_replay? recounted⟩

end Quorum
