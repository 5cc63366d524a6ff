import Quorum.Proofs.Audit.Deed
import Quorum.Proofs.Server.Run

/-!
# Every deed in the log has its signed request

Over a whole run of a server, the deeds of owners that its log lists come one by one from orders
that passed. An order is the source of a deed only if its signature, for just that action, is the
owner's, and if the body that was signed says what was done.
-/

namespace Quorum.Server

open Audit (Closed Deed deeds)
open Ledger (Operation)
open Time (Instant)

/-- The order is signed by the owner for the action that the deed is, and the signed body says what
was done. The call that a ledger holds for a submission is the signed one. Nothing authorises a
submission that its owner does not confirm at once. -/
def Order.Authorises (l : Ledger) : Order → Deed → Prop
  | .submit r, .submitted index owner destination value =>
    r.verify Action.submit.tag = .ok owner ∧ r.body.destination = destination ∧
      r.body.value = value ∧ ∃ call, l.callAt? index = some call ∧
        call.destination = destination ∧ call.value = value ∧
        Payload.parse r.body.data = .ok call.data
  | .confirm path r, .confirmed index owner =>
    r.verify Action.confirm.tag = .ok owner ∧ r.body.index = path ∧ r.body.index.toNat = index
  | .revoke path r, .revoked index owner =>
    r.verify Action.revoke.tag = .ok owner ∧ r.body.index = path ∧ r.body.index.toNat = index
  | _, _ => False

/-- The task is an order that passed and that authorises the deed. -/
def Visit.Authorises (v : Visit) (l : Ledger) (deed : Deed) : Prop :=
  ∃ o, v.task = .order o ∧ o.caller? v.before.wallet = some deed.owner ∧ o.Authorises l deed

variable {s : Server} {d : Disk} {l : Ledger} {deed : Deed} {o : Order} {w : Wallet}

/-- What an order asks for in its signer's name, it authorises. -/
lemma Order.Passes.authorises {caller : Address} {ask : Address → Operation} {nonces : Nonces}
    (passes : o.Passes w caller ask nonces) (does : l.Does (ask caller) deed) :
    deed.owner = caller ∧ o.Authorises l deed := by
  have asks := passes.asks
  have signed := passes.signed
  cases o with
  | submit r =>
    obtain ⟨data, parsed, rfl⟩ := operation_submit asks
    cases does with
    | submit held => exact ⟨rfl, signed, rfl, rfl, _, held, rfl, rfl, parsed⟩
  | confirm path r =>
    obtain ⟨same, rfl⟩ := operation_confirm asks
    cases does
    exact ⟨rfl, signed, same, by rw [same]⟩
  | revoke path r =>
    obtain ⟨same, rfl⟩ := operation_revoke asks
    cases does
    exact ⟨rfl, signed, same, by rw [same]⟩

/-- What an operation that a task leads to did, the task authorises. -/
lemma Task.LeadsTo.authorises {task : Task} {op : Operation} {nonces : Nonces}
    (h : task.LeadsTo s.wallet op nonces) (does : l.Does op deed) :
    (Visit.mk s task).Authorises l deed := by
  cases h with
  | deposit => cases does
  | order passes =>
    obtain ⟨owner, authorises⟩ := passes.authorises does
    exact ⟨_, rfl, owner ▸ Order.caller?_eq_some_iff.mpr ⟨_, _, passes⟩, authorises⟩

/-- A task adds at most one deed to the log, which stays one that it authorises. -/
lemma deeds_serve (closed : Closed s.wallet.ledger.log) (fault : Option Fault) (now : Instant)
    (d : Disk) (task : Task) :
    let next := (s.serve fault now d task).1.wallet.ledger
    Closed next.log ∧ (deeds next.log = deeds s.wallet.ledger.log ∨
      ∃ op deed, next.Does op deed ∧ (∀ l : Ledger, l.Does op deed →
        (Visit.mk s task).Authorises l deed) ∧
        deeds next.log = deeds s.wallet.ledger.log ++ [deed]) := by
  have serves := Serves.of_serve s fault now d task
  generalize s.serve fault now d task = out at serves ⊢
  cases serves with
  | idle => exact ⟨closed, .inl rfl⟩
  | @acts op nonces leads =>
    obtain ⟨whole, done, does, more⟩ :=
      (Ledger.Transition.of_apply Treasury.dispatcher s.wallet.ledger s.wallet.treasury now
        op).deeds_eq closed
    rw [← ledger_after s now op nonces] at whole does more
    cases done with
    | none => exact ⟨whole, .inl (by simpa using more)⟩
    | some deed =>
      exact ⟨whole, .inr ⟨op, deed, does deed rfl, fun _ => leads.authorises, more⟩⟩

/-- The deeds that a run adds to the log come from some of its visits, in the same order. -/
lemma deeds_run (closed : Closed s.wallet.ledger.log)
    (tasks : List (Option Fault × Instant × Task)) :
    let final := (s.run d tasks).1.wallet.ledger
    ∃ (sources : List Visit) (more : List Deed), sources.Sublist (s.visits d tasks) ∧
      List.Forall₂ (fun v deed => v.Authorises final deed) sources more ∧
      deeds final.log = deeds s.wallet.ledger.log ++ more := by
  induction tasks generalizing s d with
  | nil => exact ⟨[], [], .slnil, .nil, by simp [run]⟩
  | cons t tasks ih =>
    obtain ⟨fault, now, task⟩ := t
    obtain ⟨whole, step⟩ := deeds_serve closed fault now d task
    obtain ⟨sources, more, sublist, pairs, deeds_eq⟩ := ih whole
    rcases step with same | ⟨op, deed, does, authorises, added⟩
    · exact ⟨sources, more, sublist.cons _, pairs, by rw [← same]; exact deeds_eq⟩
    · have does := Invariant.server_run (Ledger.invariant_does op deed) does tasks
        (d := (s.serve fault now d task).2)
      refine ⟨⟨s, task⟩ :: sources, deed :: more, sublist.cons_cons _,
        .cons (authorises _ does) pairs, ?_⟩
      rw [run, deeds_eq, added, List.append_assoc]
      rfl

/-- However a server of a new wallet is used, and whether its saves succeed or not, the deeds of
owners in its log come one by one from the visits of a run, in the same order: a submission with the
confirmation by its owner from an order to submit, every other confirmation from an order to confirm
and a revocation from an order to revoke. That order passed the server's checks as one of the owner
whose deed it is. -/
theorem deeds_authorised (owners : OwnerSet) (treasury : Treasury) (nonces : Nonces)
    (storage : Storage) (d : Disk) (tasks : List (Option Fault × Instant × Task)) :
    let s : Server := ⟨⟨.create owners, treasury, nonces⟩, storage⟩
    let final := (s.run d tasks).1.wallet.ledger
    ∃ sources : List Visit, sources.Sublist (s.visits d tasks) ∧
      List.Forall₂ (fun v deed => v.Authorises final deed) sources (deeds final.log) := by
  intro s final
  have closed : Closed s.wallet.ledger.log := by
    intro index owner destination value last
    cases last
  obtain ⟨sources, more, sublist, pairs, deeds_eq⟩ := deeds_run closed (d := d) tasks
  exact ⟨sources, sublist, deeds_eq ▸ pairs⟩

end Quorum.Server
