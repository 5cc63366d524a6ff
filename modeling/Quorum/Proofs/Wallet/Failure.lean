import Quorum.Proofs.Ledger.Failure
import Quorum.Proofs.Wallet.Run
import Quorum.Time.Epoch

/-!
# What failed operations change

An operation is refused exactly if something speaks against it. It then reports the first objection
and leaves the wallet as it was. The only other failure is that of a call. It keeps the confirmation
that led to it, with the reason of the failure, and moves no funds.
-/

namespace Quorum.Wallet

open Time (Instant)
open Ledger (Operation Reply Transition)

variable {w : Wallet} {now : Instant} {op : Operation}

/-- A wallet with the owners, balances and nonces of an earlier one, given transactions, and more
events. -/
structure Adds (w : Wallet) (now : Instant) (transactions : List Transaction) (events : List Event)
    (w' : Wallet) : Prop where
  transactions_eq : w'.ledger.transactions = transactions
  events_eq : w'.ledger.events = (events.foldl (fun l event => l.record now event) w.ledger).events
  owners_eq : w'.ledger.owners = w.ledger.owners
  balances_eq : w'.treasury.balances = w.treasury.balances
  nonces_eq : w'.nonces = w.nonces

/-- What a wallet keeps of an operation whose call failed: the confirmation of the caller, on a new
transaction or on an old one, and the reason of the failure. -/
def Keeps (w : Wallet) (now : Instant) (index : Nat) (reason : String) (w' : Wallet) :
    Operation → Prop
  | .submit caller call =>
    index = w.ledger.transactions.length ∧
    ∃ t, t = { Transaction.propose index call caller now with lastFailure := some reason } ∧
      (∀ x, x ∈ t.confirmations ↔ x = caller) ∧ t.executed = false ∧
      w.Adds now (w.ledger.transactions ++ [t])
        [.submission index caller call.destination call.value, .confirmation index caller,
          .executionFailure index reason] w'
  | .confirm caller i =>
    index = i ∧
    ∃ t t', w.ledger.transactions[index]? = some t ∧ caller ∉ t.confirmations ∧
      t' = { t with confirmations := t'.confirmations, lastFailure := some reason } ∧
      (∀ x, x ∈ t'.confirmations ↔ x = caller ∨ x ∈ t.confirmations) ∧ t'.executed = false ∧
      w.Adds now (w.ledger.transactions.set index t')
        [.confirmation index caller, .executionFailure index reason] w'
  | .revoke .. => False
  | .deposit .. => False

section

variable {out : Ledger.Outcome Treasury Reply} {caller : Address} {reason : String}

/-- The ledger with a proposal whose call failed. -/
private lemma adds_of_withProposal {call : Call}
    (ledger_eq : out.ledger = ((w.ledger.withProposal now caller call).replace
      w.ledger.transactions.length
      ((Transaction.propose w.ledger.transactions.length call caller now).recordFailure
        reason)).record now (.executionFailure w.ledger.transactions.length reason))
    (balances_eq : out.dispatcher.balances = w.treasury.balances) :
    w.Adds now (w.ledger.transactions ++
        [(Transaction.propose w.ledger.transactions.length call caller now).recordFailure reason])
      [.submission w.ledger.transactions.length caller call.destination call.value,
        .confirmation w.ledger.transactions.length caller,
        .executionFailure w.ledger.transactions.length reason] (w.after out).2 where
  transactions_eq := by simp [after, ledger_eq, Ledger.withProposal, List.set_append_right]
  events_eq := by rw [after, ledger_eq]; rfl
  owners_eq := by rw [after, ledger_eq]; rfl
  balances_eq := balances_eq
  nonces_eq := rfl

/-- The ledger with a confirmation after which the call failed. -/
private lemma adds_of_withConfirmation {index : Nat} {t : Transaction}
    (ledger_eq : out.ledger = ((w.ledger.withConfirmation now caller index t).replace index
      ((t.confirm caller).recordFailure reason)).record now (.executionFailure index reason))
    (balances_eq : out.dispatcher.balances = w.treasury.balances) :
    w.Adds now (w.ledger.transactions.set index ((t.confirm caller).recordFailure reason))
      [.confirmation index caller, .executionFailure index reason] (w.after out).2 where
  transactions_eq := by simp [after, ledger_eq, Ledger.withConfirmation]
  events_eq := by rw [after, ledger_eq]; rfl
  owners_eq := by rw [after, ledger_eq]; rfl
  balances_eq := balances_eq
  nonces_eq := rfl

end

lemma keeps_of_executionFailed {index : Nat} {reason : String}
    (answer : (w.apply now op).1 = .error (.executionFailed index reason)) :
    w.Keeps now index reason (w.apply now op).2 op := by
  rw [apply_eq_after_of_error answer]
  rw [result_apply] at answer
  obtain ⟨c, reply, e, recorded, rfl, rfl, tried, ledger_eq⟩ :=
    (Transition.of_apply ..).of_executionFailed answer
  have balances_eq := Treasury.balances_dispatch_error tried
  cases recorded with
  | submit owner =>
    have adds := adds_of_withProposal ledger_eq balances_eq
    exact ⟨rfl, _, rfl, fun x => by simp [Transaction.propose], rfl, adds⟩
  | @confirm caller _ t owner found unexecuted fresh =>
    have adds := adds_of_withConfirmation ledger_eq balances_eq
    exact ⟨rfl, t, (t.confirm caller).recordFailure e.message, found, fresh, rfl,
      fun x => by simp, unexecuted, adds⟩

/-- An operation is refused exactly if there is an objection to it; it reports the first one and
leaves the wallet as it was. If instead its call fails, the wallet keeps the confirmation of the
caller and the reason of the failure, and changes in nothing else. A revocation never fails so. -/
theorem failed_operation_changes (w : Wallet) (now : Instant) (op : Operation) :
    (∀ e, w.ledger.firstObjection? op = some e ↔
      (w.apply now op).1 = .error e ∧ e.isRefusal) ∧
    (∀ e, (w.apply now op).1 = .error e → e.isRefusal → (w.apply now op).2 = w) ∧
    (∀ index reason, (w.apply now op).1 = .error (.executionFailed index reason) →
      w.Keeps now index reason (w.apply now op).2 op) := by
  have transition := Transition.of_apply Treasury.dispatcher w.ledger w.treasury now op
  have refused : ∀ e, w.ledger.firstObjection? op = some e → w.apply now op = (.error e, w) := by
    intro e objection
    have out_eq := transition.eq_of_firstObjection? objection
    have failed : (w.apply now op).1 = .error e := by rw [result_apply, out_eq]
    rw [apply_eq_after_of_error failed, out_eq]
    rfl
  have objected : ∀ e, (w.apply now op).1 = .error e → e.isRefusal →
      w.ledger.firstObjection? op = some e := by
    intro e answer refusal
    rw [result_apply] at answer
    exact transition.firstObjection?_of_refusal answer refusal
  refine ⟨fun e => ⟨fun objection => ?_, fun h => objected e h.1 h.2⟩, fun e answer refusal => ?_,
    fun index reason => keeps_of_executionFailed⟩
  · exact ⟨by rw [refused e objection], Ledger.isRefusal_of_firstObjection? objection⟩
  · rw [refused e (objected e answer refusal)]

/-- A wallet of a single owner, with code at the owner's address that refuses all calls. -/
def refusing : Wallet where
  ledger := .create (.sole .zero)
  treasury := Treasury.empty.register .zero fun _ _ _ => some "closed"
  nonces := .empty

/-- The owner's submission fails and is kept. -/
theorem refusing_keeps_submission :
    refusing.Keeps .epoch 0 "Call reverted: closed"
      (refusing.apply .epoch (.submit .zero ⟨.zero, 0, []⟩)).2 (.submit .zero ⟨.zero, 0, []⟩) :=
  (failed_operation_changes refusing .epoch (.submit .zero ⟨.zero, 0, []⟩)).2.2 0
    "Call reverted: closed" rfl

end Quorum.Wallet
