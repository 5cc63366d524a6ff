import Quorum.Proofs.Ledger.Validity
import Quorum.Time.Epoch

/-!
# The threshold

A transaction is executed in the very step in which an owner's confirmation makes up the required
number of distinct owners, and only if the dispatcher carries out its call. A step that makes up the
number tries the call, and reports success exactly if the dispatcher does.
-/

namespace Quorum.Ledger

open Time (Instant)

variable {σ : Type} {d : Dispatcher σ} {l : Ledger} {st : σ} {now : Instant} {op : Operation}
  {out : Outcome σ Reply} {attempts : List CallAttempt}

/-! ### Flags -/

lemma isExecuted_replace {index : Nat} {t t' : Transaction}
    (found : l.transactions[index]? = some t) (j : Nat) :
    (l.replace index t').isExecuted j = if j = index then t'.executed else l.isExecuted j := by
  obtain ⟨inside, _⟩ := List.getElem?_eq_some_iff.mp found
  by_cases hj : j = index
  · simp [isExecuted, hj, inside]
  · simp [isExecuted, hj, List.getElem?_set_ne (Ne.symm hj)]

lemma isExecuted_record (event : Event) (j : Nat) :
    (l.record now event).isExecuted j = l.isExecuted j := rfl

/-- A confirmation by itself executes nothing. -/
lemma Confirms.isExecuted_ledger {c : Confirmation} {reply : Bool → Reply}
    (h : Confirms l now op c reply) (j : Nat) : c.ledger.isExecuted j = l.isExecuted j := by
  by_cases hj : j = c.index
  · rw [hj, h.isExecuted_index, isExecuted_of_getElem? h.getElem?_index, h.unexecuted]
  · rw [isExecuted, isExecuted, h.getElem?_of_ne hj]

/-- Either no call is carried out and no flag changes, or the transaction that was confirmed is
executed. -/
lemma Transition.isExecuted_cases (h : Transition d l st now op out attempts) :
    ((∀ a ∈ attempts, a.succeeded = false) ∧
      ∀ j, out.ledger.isExecuted j = l.isExecuted j) ∨
    ∃ c reply, Confirms l now op c reply ∧ l.required ≤ c.transaction.count ∧
      attempts = [⟨l.address, c.transaction.call, .ok ()⟩] ∧
      out.ledger.transactions[c.index]? = some (c.transaction.markExecuted now) ∧
      ∀ j, out.ledger.isExecuted j = (decide (j = c.index) || l.isExecuted j) := by
  cases h with
  | refuses => exact .inl ⟨by simp, fun j => rfl⟩
  | records => exact .inl ⟨by simp, fun j => rfl⟩
  | revokes owner found unexecuted confirmed =>
    refine .inl ⟨by simp, fun j => ?_⟩
    rw [isExecuted_record, isExecuted_replace found]
    split
    · rename_i hj
      rw [hj, isExecuted_of_getElem? found, Transaction.revoke_executed]
    · rfl
  | @confirms _ c reply _ _ recorded settled =>
    cases settled with
    | waits => exact .inl ⟨by simp, recorded.isExecuted_ledger⟩
    | fails =>
      refine .inl ⟨by simp, fun j => ?_⟩
      rw [Outcome.map_ledger, isExecuted_record, isExecuted_replace recorded.getElem?_index]
      split
      · rename_i hj
        rw [hj, recorded.isExecuted_index, Transaction.recordFailure_executed, recorded.unexecuted]
      · exact recorded.isExecuted_ledger j
    | executes enough =>
      refine .inr ⟨c, reply, recorded, recorded.required_eq ▸ enough, ?_, ?_, fun j => ?_⟩
      · simp [recorded.address_eq]
      · obtain ⟨inside, _⟩ := List.getElem?_eq_some_iff.mp recorded.getElem?_index
        simp [inside]
      · rw [Outcome.map_ledger, isExecuted_record, isExecuted_replace recorded.getElem?_index,
          recorded.isExecuted_ledger]
        by_cases hj : j = c.index <;> simp [hj]

/-! ### Making up the number -/

/-- Whether a step reports that it executed the transaction, which `count` owners confirm. -/
def Step.Completes (s : Step) (index count : Nat) : Prop :=
  match s.operation with
  | .submit .. => s.result = .ok (.submitted index)
  | .confirm .. => s.result = .ok (.confirmed ⟨index, true, count⟩)
  | .revoke .. => False
  | .deposit .. => False

lemma Confirms.completes {c : Confirmation} {reply : Bool → Reply} (h : Confirms l now op c reply)
    (result : Except Error Reply) (after : Ledger) :
    Step.Completes ⟨op, l, attempts, result, after⟩ c.index c.transaction.count
      ↔ result = .ok (reply true) := by
  cases h <;> rfl

/-- A confirmation that leaves the required number or more leads to one attempt, whose success is
that of the whole step. -/
lemma Transition.attempts_of_enough (h : Transition d l st now op out attempts) {owner : Address}
    {index : Nat} {t : Transaction} (asked : op.confirmation? l = some (owner, index))
    (before : l.isConfirmedBy index owner = false)
    (found : out.ledger.transactions[index]? = some t) (confirmed : owner ∈ t.confirmations)
    (enough : l.required ≤ t.count) :
    ∃ a, attempts = [a] ∧ a.source = l.address ∧ a.call = t.call ∧
      (a.succeeded ↔ Step.Completes ⟨op, l, attempts, out.result, out.ledger⟩ index t.count) ∧
      (a.succeeded ↔ t.executed) := by
  cases h with
  | refuses =>
    rw [isConfirmedBy_of_getElem? found, AddressSet.contains_eq_false_iff] at before
    exact absurd confirmed before
  | revokes => cases asked
  | records => cases asked
  | @confirms _ c reply _ _ recorded settled =>
    rw [recorded.confirmation?_eq, Option.some.injEq, Prod.mk.injEq] at asked
    obtain ⟨rfl, rfl⟩ := asked
    obtain ⟨inside, hself⟩ := List.getElem?_eq_some_iff.mp recorded.getElem?_index
    cases settled with
    | waits few =>
      rw [Outcome.map_ledger, recorded.getElem?_index, Option.some.injEq] at found
      subst found
      rw [recorded.required_eq] at few
      omega
    | executes =>
      have ht : c.transaction.markExecuted now = t := by simpa [inside] using found
      subst ht
      refine ⟨_, rfl, recorded.address_eq, rfl, ?_, by simp⟩
      exact iff_of_true rfl ((recorded.completes _ _).mpr rfl)
    | @fails _ e =>
      have ht : c.transaction.recordFailure e.message = t := by simpa [inside] using found
      subst ht
      refine ⟨_, rfl, recorded.address_eq, rfl, ?_, by simp [recorded.unexecuted]⟩
      refine iff_of_false (by simp) fun completes => ?_
      cases (recorded.completes _ _).mp completes

/-! ### Safety -/

/-- The owners who confirm a transaction of a valid ledger are distinct and belong to the owner
set. -/
lemma exists_supporters {owners : OwnerSet} {position : Nat} {t : Transaction}
    (fits : t.Fits owners position) :
    ∃ supporters : List Address, supporters.Nodup ∧ supporters.length = t.count ∧
      ∀ a ∈ supporters, a ∈ owners.owners ∧ a ∈ t.confirmations :=
  ⟨t.confirmations.toList, t.confirmations.nodup, rfl, fun a ha => ⟨fits.confirmers a ha, ha⟩⟩

/-- An executed transaction stays executed. -/
lemma Transition.isExecuted_mono (h : Transition d l st now op out attempts) {i : Nat}
    (before : l.isExecuted i) : out.ledger.isExecuted i := by
  rcases h.isExecuted_cases with ⟨_, flags⟩ | ⟨c, _, _, _, _, _, flags⟩
  · rw [flags, before]
  · rw [flags, before, Bool.or_true]

/-- A transaction that becomes executed was just confirmed by an owner, is supported by the required
number of distinct owners, and its call was carried out. -/
lemma Transition.supported_of_executed (h : Transition d l st now op out attempts)
    (valid : l.Valid) {i : Nat} (before : ¬ l.isExecuted i) (after : out.ledger.isExecuted i) :
    ∃ owner t, owner ∈ l.owners.owners ∧ op.confirmation? l = some (owner, i) ∧
      ¬ l.isConfirmedBy i owner ∧ out.ledger.transactions[i]? = some t ∧ owner ∈ t.confirmations ∧
      (∃ supporters : List Address, supporters.Nodup ∧ l.required ≤ supporters.length ∧
        ∀ a ∈ supporters, a ∈ l.owners.owners ∧ a ∈ t.confirmations) ∧
      attempts = [⟨l.address, t.call, .ok ()⟩] := by
  rcases h.isExecuted_cases with ⟨_, flags⟩ | ⟨c, _, recorded, enough, tried, found, flags⟩
  · exact absurd (flags i ▸ after) before
  · have hi : i = c.index := by simpa [flags i, before] using after
    subst hi
    refine ⟨c.owner, _, recorded.owner_mem, recorded.confirmation?_eq,
      by simp [recorded.isConfirmedBy_owner], found, recorded.mem_confirmations.mpr (.inl rfl),
      ?_, tried⟩
    obtain ⟨supporters, nodup, length, members⟩ := exists_supporters (recorded.fits valid)
    exact ⟨supporters, nodup, length ▸ enough, members⟩

/-- In every step of every run, a flag turns only from unset to set. It does so only where an owner
submits or confirms that very transaction, `required` or more distinct owners then confirm it, and
the dispatcher carries out its call. A confirmation that leaves `required` or more always leads to
an attempt, and the step reports execution exactly if that attempt succeeds. -/
theorem executed_exactly_at_threshold {l : Ledger} (origin : Origin l) (d : Dispatcher σ) (st : σ)
    (ops : List (Instant × Operation)) : ∀ s ∈ l.trace d st ops,
    (∀ i, s.before.isExecuted i → s.after.isExecuted i) ∧
    (∀ i, ¬ s.before.isExecuted i → s.after.isExecuted i →
      ∃ owner t, owner ∈ l.owners.owners ∧
        s.operation.confirmation? s.before = some (owner, i) ∧
        ¬ s.before.isConfirmedBy i owner ∧
        s.after.transactions[i]? = some t ∧ owner ∈ t.confirmations ∧
        (∃ supporters : List Address, supporters.Nodup ∧ l.required ≤ supporters.length ∧
          ∀ a ∈ supporters, a ∈ l.owners.owners ∧ a ∈ t.confirmations) ∧
        s.attempts = [⟨l.address, t.call, .ok ()⟩]) ∧
    (∀ i owner t, s.operation.confirmation? s.before = some (owner, i) →
      ¬ s.before.isConfirmedBy i owner → s.after.transactions[i]? = some t →
      owner ∈ t.confirmations → l.required ≤ t.count →
      ∃ a, s.attempts = [a] ∧ a.source = l.address ∧ a.call = t.call ∧
        (a.succeeded ↔ s.Completes i t.count) ∧ (a.succeeded ↔ s.after.isExecuted i)) := by
  have invariant : Invariant fun l' => l'.owners = l.owners ∧ l'.Valid :=
    Invariant.and (invariant_owners l.owners) invariant_valid
  refine invariant.forall_mem_trace ⟨rfl, origin.valid⟩ ?_ ops
  rintro l' st' now op out attempts h ⟨owners_eq, valid⟩
  have required_eq : l'.required = l.required := by rw [required, owners_eq, required]
  have address_eq : l'.address = l.address := by rw [address, owners_eq, address]
  refine ⟨fun i => h.isExecuted_mono, fun i before after => ?_, ?_⟩
  · rw [← owners_eq, ← required_eq, ← address_eq]
    exact h.supported_of_executed valid before after
  · intro i owner t asked before found confirmed enough
    obtain ⟨a, tried, source, call, completes, executed⟩ := h.attempts_of_enough asked
      (by simpa using before) found confirmed (required_eq ▸ enough)
    rw [isExecuted_of_getElem? found]
    exact ⟨a, tried, source.trans address_eq, call, completes, executed⟩

/-- Two owners who both have to confirm. -/
def couple : OwnerSet where
  owners := [.zero, ⟨List.replicate 20 1, rfl⟩]
  required := 2
  nodup := by decide
  required_pos := by decide
  required_le := by decide

/-- The second one of them. -/
def partner : Address := ⟨List.replicate 20 1, rfl⟩

/-- The steps in which one of two owners submits a call and the other one confirms it. -/
def coupleSteps : List Step :=
  (create couple).trace ⟨fun st _ _ => (.ok (), st)⟩ ()
    [(.epoch, .submit .zero ⟨.zero, 0, []⟩), (.epoch, .confirm ⟨List.replicate 20 1, rfl⟩ 0)]

/-- The second owner's confirmation executes the call. -/
theorem executed_when_both_confirm :
    Origin (create couple) ∧ coupleSteps.map (fun s => s.after.isExecuted 0) = [false, true] ∧
    ∃ s ∈ coupleSteps, s.after.isExecuted 0 ∧ ∃ t, s.after.transactions[0]? = some t ∧
      s.attempts = [⟨couple.walletAddress, t.call, .ok ()⟩] := by
  have last : coupleSteps.get ⟨1, by decide⟩ ∈ coupleSteps := List.getElem_mem _
  refine ⟨.created couple, rfl, _, last, rfl, ?_⟩
  obtain ⟨_, t, _, _, _, found, _, _, tried⟩ :=
    (executed_exactly_at_threshold (.created couple) _ _ _ _ last).2.1 0 Bool.false_ne_true rfl
  exact ⟨t, found, tried⟩

end Quorum.Ledger
