import Quorum.Proofs.Ledger.Run
import Quorum.Wallet

/-!
# Runs of a wallet

A wallet lets its treasury carry out the calls of its ledger. Between operations, code may be
registered for any address. Whatever the dispatcher, what operations keep true of a ledger stays
true of the ledger of a wallet.
-/

namespace Quorum.Wallet

open Ledger (Invariant Operation Reply)
open Time (Instant)

/-- Carries out an operation at a given time. -/
def apply (w : Wallet) (now : Instant) : Operation → Except Ledger.Error Reply × Wallet
  | .submit caller call =>
    let (result, w) := w.submit now caller call
    (result.map .submitted, w)
  | .confirm caller index =>
    let (result, w) := w.confirm now caller index
    (result.map .confirmed, w)
  | .revoke caller index =>
    let (result, w) := w.revoke now caller index
    (result.map .revoked, w)
  | .deposit source amount => (.ok .recorded, w.deposit now source amount)

/-- What may happen to a wallet. -/
inductive Action where
  | operate (op : Operation)
  | register (target : Address)
      (refusal? : List Receipt → (caller : Address) → Call → Option String)

/-- The wallet after an action. -/
def act (w : Wallet) (now : Instant) : Action → Wallet
  | .operate op => (w.apply now op).2
  | .register target refusal? => { w with treasury := w.treasury.register target refusal? }

/-- The wallet after some actions, each at its time. -/
def run (w : Wallet) : List (Instant × Action) → Wallet
  | [] => w
  | (now, action) :: actions => (w.act now action).run actions

variable {w : Wallet} {now : Instant} {op : Operation} {p : Ledger → Prop}

/-- A deposit apart, an operation is that of the ledger with the treasury as its dispatcher. -/
lemma apply_eq_after (h : ∀ source amount, op ≠ .deposit source amount) :
    w.apply now op = w.after (w.ledger.apply Treasury.dispatcher w.treasury now op) := by
  cases op with
  | submit => rfl
  | confirm => rfl
  | revoke => rfl
  | deposit source amount => exact absurd rfl (h source amount)

lemma result_apply :
    (w.apply now op).1
      = (w.ledger.apply Treasury.dispatcher w.treasury now op).result := by
  cases op <;> rfl

lemma ledger_apply :
    (w.apply now op).2.ledger
      = (w.ledger.apply Treasury.dispatcher w.treasury now op).ledger := by
  cases op <;> rfl

/-- An operation that fails is no deposit. -/
lemma apply_eq_after_of_error {e : Ledger.Error} (failed : (w.apply now op).1 = .error e) :
    w.apply now op = w.after (w.ledger.apply Treasury.dispatcher w.treasury now op) := by
  refine apply_eq_after fun source amount => ?_
  rintro rfl
  cases failed

lemma Invariant.act (hp : Invariant p) (start : p w.ledger) (action : Action) :
    p (w.act now action).ledger := by
  cases action with
  | operate op =>
    rw [Wallet.act, ledger_apply]
    exact hp.apply start now op
  | register => exact start

/-- A wallet ends a run with every invariant that its ledger starts with. -/
lemma Invariant.wallet_run (hp : Invariant p) (start : p w.ledger)
    (actions : List (Instant × Action)) : p (w.run actions).ledger := by
  induction actions generalizing w with
  | nil => exact start
  | cons action actions ih => exact ih (Invariant.act hp start action.2)

end Quorum.Wallet
