import Quorum.Proofs.Ledger.Coherence
import Quorum.Proofs.Ledger.Execution

/-!
# Where transactions stand

The status of a transaction is read off its flag, the number of its confirmations and the reason of
its last failure. In a ledger that was built by operations all of these agree, and the reason is
that of the last attempt to execute the transaction: it outlives revocations and later
confirmations, until the next attempt.
-/

namespace Quorum

open Time (Instant)

/-- Why an attempt failed, if it did. -/
def CallAttempt.reason? (a : CallAttempt) : Option String :=
  match a.result with
  | .ok _ => none
  | .error e => some e.message

lemma CallAttempt.reason?_eq_some_iff {a : CallAttempt} {reason : String} :
    a.reason? = some reason ↔ ∃ e, a.result = .error e ∧ e.message = reason := by
  unfold reason?
  split <;> simp_all

namespace Transaction.Coherent

variable {t : Transaction} {required : Nat}

lemma executed_iff (h : t.Coherent required) : t.executed = true ↔ t.executedAt.isSome := by
  cases executed : t.executed with
  | true => exact iff_of_true rfl (h.executed executed).2.1
  | false => simp [(h.unexecuted executed).1]

/-- What the status of a coherent transaction says. -/
lemma status_eq (h : t.Coherent required) :
    t.status required = if t.executed then .executed
      else if required ≤ t.count then .dispatchFailed else .awaitingConfirmations := by
  unfold status
  split
  · rfl
  · rename_i unexecuted
    have failed := (h.unexecuted (by simpa using unexecuted)).2
    exact if_congr ⟨fun both => both.1, fun enough => ⟨enough, failed enough⟩⟩ rfl rfl

end Transaction.Coherent

namespace Ledger

variable {σ : Type} {d : Dispatcher σ} {l : Ledger} {st : σ} {now : Instant} {op : Operation}
  {attempts : List CallAttempt}

/-! ### The last failure -/

/-- Why the last attempt to execute the transaction at a position failed. -/
def failureAt? (l : Ledger) (index : Nat) : Option String :=
  l.transactions[index]?.bind (·.lastFailure)

/-- The last attempt of some steps to execute a transaction. -/
def lastAttempt? (steps : List Step) (index : Nat) : Option CallAttempt :=
  (steps.flatMap (·.attemptsFor index)).getLast?

lemma failureAt?_of_getElem? {index : Nat} {t : Transaction}
    (found : l.transactions[index]? = some t) : l.failureAt? index = t.lastFailure := by
  simp [failureAt?, found]

lemma failureAt?_record (event : Event) (j : Nat) :
    (l.record now event).failureAt? j = l.failureAt? j := rfl

lemma failureAt?_replace {index : Nat} {t t' : Transaction}
    (found : l.transactions[index]? = some t) (same : t'.lastFailure = t.lastFailure) (j : Nat) :
    (l.replace index t').failureAt? j = l.failureAt? j := by
  obtain ⟨inside, _⟩ := List.getElem?_eq_some_iff.mp found
  by_cases hj : j = index
  · subst hj
    rw [failureAt?_of_getElem? found, failureAt?, transactions_replace,
      List.getElem?_set_self inside, Option.bind_some, same]
  · rw [failureAt?, failureAt?, transactions_replace, List.getElem?_set_ne (Ne.symm hj)]

/-- A confirmation by itself is no attempt. -/
lemma Confirms.failureAt?_index {c : Confirmation} {reply : Bool → Reply}
    (h : Confirms l now op c reply) : l.failureAt? c.index = c.transaction.lastFailure := by
  cases h with
  | submit => simp [failureAt?, Transaction.propose]
  | confirm _ found => exact (failureAt?_of_getElem? found).trans rfl

/-- The failure of a transaction that is settled is that of the attempt, if there was one. -/
lemma Settled.failureAt?_index {c : Confirmation} {out : Outcome σ Bool}
    (h : Settled d st now c out attempts)
    (found : c.ledger.transactions[c.index]? = some c.transaction) :
    out.ledger.failureAt? c.index
      = (attempts.getLast?.map (·.reason?)).getD c.transaction.lastFailure := by
  obtain ⟨inside, _⟩ := List.getElem?_eq_some_iff.mp found
  cases h with
  | waits => exact failureAt?_of_getElem? found
  | executes => simp [failureAt?, inside, Transaction.markExecuted, CallAttempt.reason?]
  | fails => simp [failureAt?, inside, Transaction.recordFailure, CallAttempt.reason?]

/-- A step leaves the failure of each transaction as it was, unless it attempts to execute it. -/
lemma Transition.failureAt?_eq {out : Outcome σ Reply} (h : Transition d l st now op out attempts)
    (j : Nat) : out.ledger.failureAt? j
      = ((Step.attemptsFor ⟨op, l, attempts, out.result, out.ledger⟩ j).getLast?.map
          (·.reason?)).getD (l.failureAt? j) := by
  cases h with
  | refuses => simp [Step.attemptsFor]
  | records => simp [Step.attemptsFor, recordDeposit, failureAt?_record]
  | @revokes caller _ t _ found =>
    have same : (t.revoke caller).lastFailure = t.lastFailure := rfl
    rw [failureAt?_record, failureAt?_replace found same]
    simp [Step.attemptsFor]
  | @confirms _ c _ _ _ recorded settled =>
    rw [Outcome.map_ledger, Step.attemptsFor, recorded.confirmation?_eq]
    by_cases hj : j = c.index
    · subst hj
      rw [settled.failureAt?_index recorded.getElem?_index, recorded.failureAt?_index]
      simp
    · have other : (Option.map (·.2) (some (c.owner, c.index))) ≠ some j := by
        simpa using Ne.symm hj
      rw [if_neg other, failureAt?, settled.getElem?_of_ne hj, recorded.getElem?_of_ne hj]
      rfl

/-- At the end of a run, the failure of a transaction is that of the last attempt to execute it, or
that of before if there was none. -/
lemma failureAt?_run (d : Dispatcher σ) (l : Ledger) (st : σ) (ops : List (Instant × Operation))
    (j : Nat) : (l.run d st ops).1.failureAt? j
      = ((lastAttempt? (l.trace d st ops) j).map (·.reason?)).getD (l.failureAt? j) := by
  induction ops generalizing l st with
  | nil => rfl
  | cons o ops ih =>
    have first := (Transition.of_apply d l st o.1 o.2).failureAt?_eq j
    rw [run, ih, first, lastAttempt?, lastAttempt?, trace, List.flatMap_cons,
      List.getLast?_append]
    cases (((l.apply d st o.1 o.2).ledger.trace d (l.apply d st o.1 o.2).dispatcher ops).flatMap
      (·.attemptsFor j)).getLast? with
    | none => rfl
    | some a => rfl

/-- What is attempted for a transaction is its call. -/
lemma callAt?_of_mem_attemptsFor (ops : List (Instant × Operation)) {j : Nat} {a : CallAttempt}
    (tried : a ∈ (l.trace d st ops).flatMap (·.attemptsFor j)) :
    (l.run d st ops).1.callAt? j = some a.call := by
  induction ops generalizing l st with
  | nil => cases tried
  | cons o ops ih =>
    rw [trace, List.flatMap_cons, List.mem_append] at tried
    rcases tried with first | later
    · have transition := Transition.of_apply d l st o.1 o.2
      refine Invariant.run (invariant_callAt? j a.call) ?_ ops
      rw [Step.attemptsFor] at first
      split at first
      · rename_i asked
        rcases transition.attempts_cases with none | ⟨owner, i, a', asked', _, one, _, known⟩
        · rw [step, none] at first
          cases first
        · obtain rfl : i = j := by simpa [step, asked'] using asked
          rw [step, one, List.mem_singleton] at first
          exact first ▸ known
      · cases first
    · exact ih later

/-! ### The status -/

/-- In a new ledger after any operations, a transaction is executed exactly if it has a time of
execution; it then has the required confirmations and no failure. A failure is always that of the
last attempt to execute the transaction, and there is one if the transaction has the required
confirmations but is not executed. The status says which of the three cases holds. -/
theorem status_exact (owners : OwnerSet) (d : Dispatcher σ) (st : σ)
    (ops : List (Instant × Operation)) {i : Nat} {t : Transaction}
    (found : ((create owners).run d st ops).1.transactions[i]? = some t) :
    (t.executed ↔ t.executedAt.isSome) ∧
    (t.executed → owners.threshold ≤ t.count ∧ t.lastFailure = none) ∧
    t.lastFailure = (lastAttempt? ((create owners).trace d st ops) i).bind (·.reason?) ∧
    (¬ t.executed → owners.threshold ≤ t.count →
      ∃ a e, lastAttempt? ((create owners).trace d st ops) i = some a ∧ a.call = t.call ∧
        a.result = .error e ∧ t.lastFailure = some e.message) ∧
    (t.status owners.threshold = .executed ↔ t.executed) ∧
    (t.status owners.threshold = .dispatchFailed ↔
      ¬ t.executed ∧ owners.threshold ≤ t.count) ∧
    (t.status owners.threshold = .awaitingConfirmations ↔
      ¬ t.executed ∧ t.count < owners.threshold) := by
  have kept : ((create owners).run d st ops).1.owners = owners :=
    Invariant.run (invariant_owners owners) rfl ops
  have coherent : t.Coherent owners.threshold := by
    have coherent := (invariant_coherent.run (coherent_create owners) ops).transactions i t found
    rwa [required, kept] at coherent
  have reason : t.lastFailure
      = (lastAttempt? ((create owners).trace d st ops) i).bind (·.reason?) := by
    rw [← failureAt?_of_getElem? found, failureAt?_run]
    cases lastAttempt? ((create owners).trace d st ops) i <;> rfl
  refine ⟨coherent.executed_iff, fun executed => ?_, reason, fun unexecuted enough => ?_, ?_⟩
  · obtain ⟨enough, _, none⟩ := coherent.executed executed
    exact ⟨enough, none⟩
  · have failed := (coherent.unexecuted (by simpa using unexecuted)).2 enough
    obtain ⟨text, there⟩ := Option.isSome_iff_exists.mp failed
    obtain ⟨a, last, why⟩ := Option.bind_eq_some_iff.mp (reason.symm.trans there)
    obtain ⟨e, result, message⟩ := CallAttempt.reason?_eq_some_iff.mp why
    have call_eq := callAt?_of_mem_attemptsFor ops (List.mem_of_getLast? last)
    rw [callAt?, found, Option.map_some, Option.some.injEq] at call_eq
    exact ⟨a, e, last, call_eq.symm, result, by rw [there, message]⟩
  · rw [coherent.status_eq]
    cases t.executed with
    | true => simp
    | false =>
      by_cases enough : owners.threshold ≤ t.count
      · simp [enough]
      · simp [enough, Nat.lt_of_not_le enough]

/-- A dispatcher that refuses its first call for one reason and all others for another. -/
def moody : Dispatcher Nat where
  dispatch n _ _ := (.error (.reverted (if n = 0 then "busy" else "closed")), n + 1)

/-- One of two owners submits a call. The other one confirms it, takes that back and confirms it
again, so that it is attempted twice. -/
def retries : List (Instant × Operation) :=
  [(.epoch, .submit .zero ⟨.zero, 0, []⟩), (.epoch, .confirm partner 0),
    (.epoch, .revoke partner 0), (.epoch, .confirm partner 0)]

/-- The reason of the second attempt is kept. -/
theorem retries_keep_last_reason :
    ∃ t, ((create couple).run moody 0 retries).1.transactions[0]? = some t ∧
      t.lastFailure = some "Call reverted: closed" ∧ t.status 2 = .dispatchFailed := by
  obtain ⟨t, found⟩ :
      ∃ t, ((create couple).run moody 0 retries).1.transactions[0]? = some t := ⟨_, rfl⟩
  obtain ⟨_, _, reason, _, _, failed, _⟩ := status_exact couple moody 0 retries found
  have unexecuted : ¬ t.executed := by
    cases found
    decide
  have enough : couple.threshold ≤ t.count := by
    cases found
    decide
  exact ⟨t, found, reason.trans rfl, failed.mpr ⟨unexecuted, enough⟩⟩

end Ledger

end Quorum
