import Quorum.Proofs.Ledger.Execution
import Quorum.Proofs.Ledger.Failure
import Quorum.Proofs.Ledger.Reads
import Quorum.Proofs.Wallet.RoundTrip

/-!
# No transaction is stuck

A call that failed leaves a transaction with all its confirmations, and who confirms it cannot do
so again. Still, as soon as the treasury would carry out its call, the owners can have it executed:
those who do not confirm it yet confirm it one after the other, and where all confirm it, one of
them takes the confirmation back and gives it once more.
-/

namespace Quorum

open Ledger (Confirms Operation Reply Settled Transition)
open Time (Instant)

namespace Ledger

variable {σ : Type} {l : Ledger} {caller : Address} {index : Nat} {t : Transaction}

/-- A confirmation of an owner who did not confirm the open transaction before is recorded. -/
lemma exists_settled (d : Dispatcher σ) (st : σ) (now : Instant)
    (owner : caller ∈ l.owners.owners) (found : l.transactions[index]? = some t)
    (unexecuted : t.executed = false) (fresh : caller ∉ t.confirmations) :
    let c : Confirmation :=
      ⟨caller, index, t.confirm caller, l.withConfirmation now caller index t⟩
    ∃ reply settled attempts, Confirms l now (.confirm caller index) c reply ∧
      Settled d st now c settled attempts ∧
      (l.apply d st now (.confirm caller index)).ledger = settled.ledger ∧
      (l.apply d st now (.confirm caller index)).dispatcher = settled.dispatcher := by
  intro c
  have granted : Confirms l now (.confirm caller index) c _ :=
    .confirm owner found unexecuted fresh
  have transition := Transition.of_apply d l st now (.confirm caller index)
  generalize l.attempts d st now (.confirm caller index) = attempts at transition
  generalize l.apply d st now (.confirm caller index) = out at transition ⊢
  cases transition with
  | refuses objection =>
    rw [granted.firstObjection?_eq_none] at objection
    cases objection
  | confirms recorded settled =>
    cases recorded with
    | confirm _ found' =>
      rw [found, Option.some.injEq] at found'
      subst found'
      exact ⟨_, _, _, granted, settled, rfl, rfl⟩

/-- A confirmation that an owner gave to an open transaction can be taken back. -/
lemma apply_revoke (d : Dispatcher σ) (st : σ) (now : Instant) (owner : caller ∈ l.owners.owners)
    (found : l.transactions[index]? = some t) (unexecuted : t.executed = false)
    (confirmed : caller ∈ t.confirmations) :
    l.apply d st now (.revoke caller index) = ⟨.ok (.revoked (t.revoke caller).count),
      (l.replace index (t.revoke caller)).record now (.revocation index caller), st⟩ := by
  have transition := Transition.of_apply d l st now (.revoke caller index)
  generalize l.attempts d st now (.revoke caller index) = attempts at transition
  generalize l.apply d st now (.revoke caller index) = out at transition ⊢
  cases transition with
  | refuses objection =>
    simp only [firstObjection?, objections, find?_objectionsTo owner found unexecuted] at objection
    simp [isConfirmedBy_of_getElem? found, confirmed] at objection
  | confirms recorded => cases recorded
  | revokes _ found' =>
    rw [found, Option.some.injEq] at found'
    subst found'
    rfl

/-- Whether an operation is an owner's confirmation of a transaction, or the withdrawal of one. -/
inductive Operation.IsVote (owners : OwnerSet) (index : Nat) : Operation → Prop
  | confirm {owner : Address} (mem : owner ∈ owners.owners) :
      IsVote owners index (.confirm owner index)
  | revoke {owner : Address} (mem : owner ∈ owners.owners) :
      IsVote owners index (.revoke owner index)

end Ledger

namespace Treasury

/-- The treasury would carry out a call: the funds are there, and the code at its destination, if
there is any, would accept it. -/
structure Accepts (t : Treasury) (source : Address) (call : Call) : Prop where
  covered : call.value.units ≤ (t.balanceOf source).units
  accepted : ∀ target, t.targets.get? call.destination = some target →
    target.refusal? (t.receiptsOf call.destination target) source call = none

/-- What the treasury would carry out, it carries out when asked. -/
lemma Accepts.dispatch_eq_ok {t : Treasury} {source : Address} {call : Call}
    (h : t.Accepts source call) : (t.dispatch source call).1 = .ok () := by
  have willing : (t.forward source call).1 = none := by
    unfold forward
    split
    · rfl
    · rename_i target coded
      exact h.accepted target coded
  simp only [dispatch, if_neg (Nat.not_lt.mpr h.covered)]
  split
  · rename_i refused
    rw [refused] at willing
    cases willing
  · rfl

end Treasury

/-! ### Numbers of confirmations -/

namespace Transaction

variable {t : Transaction} {owner : Address}

/-- One owner more confirms. -/
lemma count_confirm (fresh : owner ∉ t.confirmations) : (t.confirm owner).count = t.count + 1 := by
  have perm : (t.confirm owner).confirmations.toList.Perm (owner :: t.confirmations.toList) := by
    refine (List.perm_ext_iff_of_nodup (AddressSet.nodup _) ?_).mpr fun a => ?_
    · exact List.nodup_cons.mpr ⟨fresh, AddressSet.nodup _⟩
    · rw [AddressSet.mem_toList, mem_confirmations_confirm, List.mem_cons, AddressSet.mem_toList]
  exact perm.length_eq

/-- Who takes a confirmation back and gives it again leaves the number as it was. -/
lemma count_confirm_revoke (confirmed : owner ∈ t.confirmations) :
    ((t.revoke owner).confirm owner).count = t.count := by
  have perm : ((t.revoke owner).confirm owner).confirmations.toList.Perm
      t.confirmations.toList := by
    refine (List.perm_ext_iff_of_nodup (AddressSet.nodup _) (AddressSet.nodup _)).mpr fun a => ?_
    rw [AddressSet.mem_toList, mem_confirmations_confirm, mem_confirmations_revoke,
      AddressSet.mem_toList]
    constructor
    · rintro (rfl | ⟨kept, _⟩)
      · exact confirmed
      · exact kept
    · intro kept
      by_cases same : a = owner
      · exact .inl same
      · exact .inr ⟨kept, same⟩
  exact perm.length_eq

end Transaction

namespace Wallet

/-- A transaction that waits to be executed, though the treasury would carry out its call. -/
structure Executable (w : Wallet) (index : Nat) (t : Transaction) : Prop where
  found : w.ledger.transactions[index]? = some t
  unexecuted : t.executed = false
  accepts : w.treasury.Accepts w.address t.call

variable {w : Wallet} {index : Nat} {t : Transaction} {owner : Address} {now : Instant}

namespace Executable

/-- A confirmation that does not make up the number leaves the transaction waiting with it. -/
lemma confirm (h : w.Executable index t) (now : Instant) (mem : owner ∈ w.ledger.owners.owners)
    (fresh : owner ∉ t.confirmations) (few : t.count + 1 < w.ledger.required) :
    (w.apply now (.confirm owner index)).2.Executable index (t.confirm owner) ∧
      (w.apply now (.confirm owner index)).2.ledger.owners = w.ledger.owners := by
  obtain ⟨reply, settled, attempts, granted, settles, ledger_eq, treasury_eq⟩ :=
    Ledger.exists_settled Treasury.dispatcher w.treasury now mem h.found h.unexecuted fresh
  have applied : w.apply now (.confirm owner index)
      = w.after (w.ledger.apply Treasury.dispatcher w.treasury now (.confirm owner index)) := rfl
  rw [← Transaction.count_confirm fresh, ← granted.required_eq] at few
  rw [applied]
  cases settles with
  | waits =>
    have owners_eq : (w.ledger.apply Treasury.dispatcher w.treasury now
        (.confirm owner index)).ledger.owners = w.ledger.owners := by
      rw [ledger_eq]
      exact granted.owners_eq
    refine ⟨⟨?_, h.unexecuted, ?_⟩, owners_eq⟩
    · simp only [after, ledger_eq]
      exact granted.getElem?_index
    · simp only [after, address, Ledger.address, owners_eq, treasury_eq]
      exact h.accepts
  | executes enough => exact absurd few (Nat.not_lt.mpr enough)
  | fails enough => exact absurd few (Nat.not_lt.mpr enough)

/-- A confirmation that makes up the number executes the transaction. -/
lemma execute (h : w.Executable index t) (mem : owner ∈ w.ledger.owners.owners)
    (fresh : owner ∉ t.confirmations) (enough : w.ledger.required ≤ t.count + 1) :
    (w.apply now (.confirm owner index)).2.ledger.isExecuted index = true := by
  obtain ⟨reply, settled, attempts, granted, settles, ledger_eq, _⟩ :=
    Ledger.exists_settled Treasury.dispatcher w.treasury now mem h.found h.unexecuted fresh
  rw [← Transaction.count_confirm fresh, ← granted.required_eq] at enough
  rw [ledger_apply, ledger_eq]
  cases settles with
  | waits few => exact absurd few (Nat.not_lt.mpr enough)
  | executes =>
    rw [Ledger.isExecuted_record, Ledger.isExecuted_replace granted.getElem?_index, if_pos rfl,
      Transaction.markExecuted_executed]
  | fails _ answer =>
    -- the address is that of the owners, and so the call is the one that is accepted
    have carried := h.accepts.dispatch_eq_ok
    rw [granted.address_eq] at answer
    have failed := congrArg Prod.fst answer
    exact absurd (failed.symm.trans carried) (by simp)

/-- A confirmation that is taken back leaves the transaction waiting without it. -/
lemma revoke (h : w.Executable index t) (now : Instant) (mem : owner ∈ w.ledger.owners.owners)
    (confirmed : owner ∈ t.confirmations) :
    (w.apply now (.revoke owner index)).2.Executable index (t.revoke owner) ∧
      (w.apply now (.revoke owner index)).2.ledger.owners = w.ledger.owners := by
  obtain ⟨inside, _⟩ := List.getElem?_eq_some_iff.mp h.found
  have applied : w.apply now (.revoke owner index)
      = w.after (w.ledger.apply Treasury.dispatcher w.treasury now (.revoke owner index)) := rfl
  rw [applied, Ledger.apply_revoke Treasury.dispatcher w.treasury now mem h.found h.unexecuted
    confirmed]
  exact ⟨⟨List.getElem?_set_self inside, h.unexecuted, h.accepts⟩, rfl⟩

end Executable

/-! ### Runs of votes -/

/-- Whenever the operations are carried out one after the other, the transaction is executed in the
end. -/
def Executes (w : Wallet) (index : Nat) (ops : List Operation) : Prop :=
  ∀ actions : List (Instant × Action), actions.map (·.2) = ops.map .operate →
    (w.run actions).ledger.isExecuted index = true

lemma executes_cons {op : Operation} {ops : List Operation}
    (h : ∀ now, (w.apply now op).2.Executes index ops) : w.Executes index (op :: ops) := by
  intro actions same
  cases actions with
  | nil => cases same
  | cons action actions =>
    obtain ⟨now, action⟩ := action
    simp only [List.map_cons, List.cons.injEq] at same
    obtain ⟨rfl, same⟩ := same
    exact h now actions same

/-- What is executed stays so. -/
lemma executes_of_isExecuted (h : w.ledger.isExecuted index = true) (ops : List Operation) :
    w.Executes index ops :=
  fun actions _ => Invariant.wallet_run (Ledger.invariant_isExecuted index) h actions

/-- Owners who do not confirm the transaction yet have it executed if they are enough, and at least
one. -/
lemma Executable.executes_confirms {owners : List Address} (h : w.Executable index t)
    (some_owner : owners ≠ []) (distinct : owners.Nodup)
    (fresh : ∀ a ∈ owners, a ∈ w.ledger.owners.owners ∧ a ∉ t.confirmations)
    (enough : w.ledger.required ≤ t.count + owners.length) :
    w.Executes index (owners.map (.confirm · index)) := by
  -- either the first of them makes up the number, or the others do when the first one has confirmed
  induction owners generalizing w t with
  | nil => exact absurd rfl some_owner
  | cons owner owners ih =>
    obtain ⟨⟨mem, fresh_owner⟩, fresh⟩ := List.forall_mem_cons.mp fresh
    obtain ⟨new, distinct⟩ := List.nodup_cons.mp distinct
    rw [List.length_cons] at enough
    refine executes_cons fun now => ?_
    by_cases last : w.ledger.required ≤ t.count + 1
    · exact executes_of_isExecuted (h.execute mem fresh_owner last) _
    · obtain ⟨waits, owners_eq⟩ := h.confirm now mem fresh_owner (Nat.not_le.mp last)
      have required_eq : (w.apply now (.confirm owner index)).2.ledger.required
          = w.ledger.required := by
        rw [Ledger.required, owners_eq, Ledger.required]
      refine ih waits ?_ distinct (fun a ha => ?_) ?_
      · rintro rfl
        rw [List.length_nil] at enough
        omega
      · obtain ⟨mem, fresh⟩ := fresh a ha
        refine ⟨owners_eq ▸ mem, fun confirms => ?_⟩
        rcases Transaction.mem_confirmations_confirm.mp confirms with rfl | confirms
        · exact new ha
        · exact fresh confirms
      · rw [required_eq, Transaction.count_confirm fresh_owner]
        omega

/-- An owner who confirms the transaction like all the others takes that back and does it again. -/
lemma Executable.executes_again (h : w.Executable index t) (mem : owner ∈ w.ledger.owners.owners)
    (confirmed : owner ∈ t.confirmations) (enough : w.ledger.required ≤ t.count) :
    w.Executes index [.revoke owner index, .confirm owner index] := by
  refine executes_cons fun now => ?_
  obtain ⟨waits, owners_eq⟩ := h.revoke now mem confirmed
  have fresh : owner ∉ (t.revoke owner).confirmations := by simp
  have count_eq : (t.revoke owner).count + 1 = t.count := by
    rw [← Transaction.count_confirm fresh, Transaction.count_confirm_revoke confirmed]
  refine executes_cons fun now' => executes_of_isExecuted ?_ []
  refine waits.execute (owners_eq ▸ mem) fresh ?_
  rw [Ledger.required, owners_eq, count_eq]
  exact enough

/-! ### The way out -/

/-- A transaction that is not executed though the treasury would carry out its call can always be
executed by the owners alone: they need two votes, or as many as confirmations are missing if that
is more. -/
theorem never_stuck (reachable : Reachable w) (h : w.Executable index t) :
    ∃ ops : List Operation, ops.length ≤ max 2 (w.ledger.required - t.count) ∧
      (∀ op ∈ ops, op.IsVote w.ledger.owners index) ∧ w.Executes index ops := by
  have fits := reachable.sound.1 index t h.found
  let missing := w.ledger.owners.owners.filter fun a => !t.confirmations.contains a
  have number : t.count + missing.length = w.ledger.owners.owners.length := by
    rw [← fits.length_filter]
    exact (List.length_eq_length_filter_add _).symm
  have mem_missing : ∀ a ∈ missing, a ∈ w.ledger.owners.owners ∧ a ∉ t.confirmations := by
    intro a ha
    simpa [missing] using ha
  have threshold : w.ledger.required ≤ w.ledger.owners.owners.length :=
    w.ledger.owners.required_le
  by_cases none_missing : missing = []
  · -- all confirm it, and so at least one does
    have positive : 0 < w.ledger.required := w.ledger.owners.required_pos
    rw [none_missing, List.length_nil, Nat.add_zero] at number
    obtain ⟨owner, mem⟩ : ∃ owner, owner ∈ w.ledger.owners.owners :=
      List.exists_mem_of_length_pos (by omega)
    have confirmed : owner ∈ t.confirmations := by
      by_contra other
      have listed : owner ∈ missing := by simpa [missing] using ⟨mem, other⟩
      rw [none_missing] at listed
      cases listed
    refine ⟨[.revoke owner index, .confirm owner index], Nat.le_max_left .., ?_,
      h.executes_again mem confirmed (by omega)⟩
    simp only [List.forall_mem_cons]
    exact ⟨.revoke mem, .confirm mem, nofun⟩
  · let voters := missing.take (max 1 (w.ledger.required - t.count))
    have positive : 0 < missing.length := List.length_pos_iff.mpr none_missing
    have length_eq : voters.length = max 1 (w.ledger.required - t.count) := by
      rw [List.length_take]
      omega
    have subset : ∀ a ∈ voters, a ∈ missing := fun a => List.mem_of_mem_take
    refine ⟨voters.map (.confirm · index), ?_, ?_, ?_⟩
    · rw [List.length_map]
      omega
    · simp only [List.forall_mem_map]
      exact fun a ha => .confirm (mem_missing a (subset a ha)).1
    · refine h.executes_confirms ?_ ?_ (fun a ha => mem_missing a (subset a ha)) ?_
      · rw [← List.length_pos_iff]
        omega
      · exact (w.ledger.owners.nodup.filter _).sublist (List.take_sublist ..)
      · omega

/-- The wallet of a sole owner, whose call failed for lack of funds that have come in since. -/
def overdue : Wallet :=
  (create (.sole .zero)).run
    [(.epoch, .operate (.submit .zero ⟨Ledger.partner, ⟨3, by decide⟩, []⟩)),
     (.epoch, .operate (.deposit Ledger.partner ⟨3, by decide⟩))]

/-- The owner confirms the call already, and can have it executed all the same. -/
theorem overdue_not_stuck : Reachable overdue ∧ ∃ t, overdue.Executable 0 t ∧
    t.status overdue.ledger.required = .dispatchFailed ∧
    t.count = overdue.ledger.owners.size ∧
    ∃ ops : List Operation, ops.length ≤ 2 ∧ (∀ op ∈ ops, op.IsVote (.sole .zero) 0) ∧
      overdue.Executes 0 ops := by
  have reachable : Reachable overdue := (Reachable.created (.sole .zero)).run _
  obtain ⟨t, found⟩ : ∃ t, overdue.ledger.transactions[0]? = some t := ⟨_, rfl⟩
  obtain rfl := Option.some.inj found
  have funds : (overdue.treasury.balanceOf overdue.address).units = 3 := by
    refine (Treasury.units_balanceOf_deposit (t := .empty) (a := overdue.address)
      (x := overdue.address)).trans ?_
    rw [if_pos rfl]
    decide
  have accepts : overdue.treasury.Accepts overdue.address ⟨Ledger.partner, ⟨3, by decide⟩, []⟩ :=
    ⟨Nat.le_of_eq funds.symm, nofun⟩
  have waits : overdue.Executable 0 _ := ⟨found, rfl, accepts⟩
  exact ⟨reachable, _, waits, rfl, rfl, never_stuck reachable waits⟩

end Wallet

end Quorum
