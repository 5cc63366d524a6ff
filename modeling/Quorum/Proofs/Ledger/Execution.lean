import Mathlib.Data.List.Forall2
import Quorum.Proofs.Ledger.Threshold

/-!
# Every transaction is executed at most once

Over a whole run, the calls that the dispatcher carried out are one for one those of the
transactions that became executed, each with the call that was given for its transaction. A failed
call may be tried again, but once a transaction is executed its call is never tried any more.
-/

namespace Quorum.Ledger

open Time (Instant)

variable {σ : Type} {d : Dispatcher σ} {l : Ledger} {st : σ} {now : Instant} {op : Operation}
  {out : Outcome σ Reply} {attempts : List CallAttempt}

/-! ### The call of a transaction -/

/-- The call of the transaction at a position. -/
def callAt? (l : Ledger) (index : Nat) : Option Call :=
  l.transactions[index]?.map (·.call)

/-- A step that submits a call and reports its index, be the call executed, failed or waiting. -/
def Step.Submits (s : Step) (index : Nat) (call : Call) : Prop :=
  (∃ caller, s.operation = .submit caller call) ∧
    (s.result = .ok (.submitted index) ∨
      ∃ reason, s.result = .error (.executionFailed index reason))

/-- The call that was given for a transaction: the ledger held it at the start of a run, or a step
of the run submitted it. -/
def IsCallOf (l : Ledger) (steps : List Step) (index : Nat) (call : Call) : Prop :=
  l.callAt? index = some call ∨ ∃ s ∈ steps, s.Submits index call

lemma callAt?_replace {index : Nat} {t t' : Transaction} (found : l.transactions[index]? = some t)
    (same : t'.call = t.call) (j : Nat) : (l.replace index t').callAt? j = l.callAt? j := by
  by_cases hj : j = index
  · obtain ⟨inside, _⟩ := List.getElem?_eq_some_iff.mp found
    rw [hj, callAt?, callAt?, found, transactions_replace, List.getElem?_set_self inside,
      Option.map_some, Option.map_some, same]
  · simp [callAt?, List.getElem?_set_ne (Ne.symm hj)]

lemma callAt?_record (event : Event) (j : Nat) : (l.record now event).callAt? j = l.callAt? j := rfl

lemma Settled.callAt?_eq {c : Confirmation} {out : Outcome σ Bool}
    (h : Settled d st now c out attempts)
    (found : c.ledger.transactions[c.index]? = some c.transaction) (j : Nat) :
    out.ledger.callAt? j = c.ledger.callAt? j := by
  cases h with
  | waits => rfl
  | executes => exact callAt?_replace found (Transaction.markExecuted_call _ _) j
  | fails => exact callAt?_replace found (Transaction.recordFailure_call _ _) j

/-- What a settled submission answers names its index. -/
lemma Settled.submits_iff {c : Confirmation} {out : Outcome σ Bool} {caller : Address}
    {call call' : Call} {before : Ledger} {n j : Nat} (h : Settled d st now c out attempts)
    (hn : c.index = n) :
    Step.Submits ⟨.submit caller call, before, attempts, out.result.map fun _ => .submitted n,
      out.ledger⟩ j call' ↔ j = n ∧ call = call' := by
  subst hn
  cases h <;> simp [Step.Submits, Except.map, and_comm, eq_comm]

/-- Only a submission gives a call to a transaction. -/
lemma Step.not_submits {s : Step} (other : ∀ caller call, s.operation ≠ .submit caller call)
    {j : Nat} {call : Call} : ¬ s.Submits j call :=
  fun h => h.1.elim fun caller => other caller call

lemma callAt?_withProposal (caller : Address) (call : Call) (j : Nat) :
    (l.withProposal now caller call).callAt? j
      = if j = l.transactions.length then some call else l.callAt? j := by
  simp only [callAt?, withProposal, transactions_record]
  rcases Nat.lt_trichotomy j l.transactions.length with hlt | rfl | hgt
  · rw [List.getElem?_append_left hlt, if_neg (Nat.ne_of_lt hlt)]
  · simp
  · rw [List.getElem?_eq_none (by simp; omega), List.getElem?_eq_none (Nat.le_of_lt hgt),
      if_neg (Nat.ne_of_gt hgt)]

/-- A step gives a transaction its call only by submitting it, and never takes it away. -/
lemma Transition.callAt?_iff (h : Transition d l st now op out attempts) {j : Nat} {call : Call} :
    out.ledger.callAt? j = some call ↔
      l.callAt? j = some call ∨ Step.Submits ⟨op, l, attempts, out.result, out.ledger⟩ j call := by
  cases h with
  | refuses objection =>
    have refusal := isRefusal_of_firstObjection? objection
    refine ⟨.inl, fun h => h.resolve_right ?_⟩
    rintro ⟨_, answer | ⟨reason, answer⟩⟩
    · cases answer
    · cases answer
      cases refusal
  | records =>
    rw [or_iff_left (Step.not_submits (by simp)), recordDeposit, callAt?_record]
  | revokes owner found =>
    rw [or_iff_left (Step.not_submits (by simp)), callAt?_record,
      callAt?_replace found (Transaction.revoke_call _ _)]
  | @confirms _ c reply _ _ recorded settled =>
    rw [Outcome.map_ledger, Outcome.map_result, settled.callAt?_eq recorded.getElem?_index]
    cases recorded with
    | @submit caller call' owner =>
      have unused : l.callAt? l.transactions.length = none := by simp [callAt?]
      rw [settled.submits_iff rfl, callAt?_withProposal]
      by_cases hj : j = l.transactions.length
      · simp [hj, unused]
      · simp [hj]
    | confirm owner found =>
      rw [or_iff_left (Step.not_submits (by simp)), withConfirmation, callAt?_record,
        callAt?_replace found (Transaction.confirm_call _ _)]

/-- The call of a transaction stays the same. -/
lemma invariant_callAt? (j : Nat) (call : Call) : Invariant fun l => l.callAt? j = some call :=
  fun h start => h.callAt?_iff.mpr (.inl start)

/-- At the end of a run, each transaction has the call that was given for it. -/
lemma isCallOf_trace_iff (ops : List (Instant × Operation)) {j : Nat} {call : Call} :
    IsCallOf l (l.trace d st ops) j call ↔ (l.run d st ops).1.callAt? j = some call := by
  induction ops generalizing l st with
  | nil => simp [IsCallOf, trace, run]
  | cons o ops ih =>
    rw [run, ← ih, IsCallOf, IsCallOf, (Transition.of_apply d l st o.1 o.2).callAt?_iff, trace]
    simp only [List.mem_cons, exists_eq_or_imp, or_assoc]
    rfl

/-! ### Attempts -/

/-- The calls that a step tried for a transaction. -/
def Step.attemptsFor (s : Step) (index : Nat) : List CallAttempt :=
  if (s.operation.confirmation? s.before).map (·.2) = some index then s.attempts else []

/-- An operation tries at most one call: that of the transaction it confirms, which must not be
executed yet. -/
lemma Transition.attempts_cases (h : Transition d l st now op out attempts) :
    attempts = [] ∨ ∃ owner i a, op.confirmation? l = some (owner, i) ∧ l.isExecuted i = false ∧
      attempts = [a] ∧ a.source = l.address ∧ out.ledger.callAt? i = some a.call := by
  cases h with
  | refuses => exact .inl rfl
  | revokes => exact .inl rfl
  | records => exact .inl rfl
  | @confirms _ c reply _ _ recorded settled =>
    have call_eq : c.ledger.callAt? c.index = some c.transaction.call := by
      rw [callAt?, recorded.getElem?_index, Option.map_some]
    have kept := settled.callAt?_eq recorded.getElem?_index c.index
    cases settled with
    | waits => exact .inl rfl
    | executes =>
      exact .inr ⟨c.owner, c.index, _, recorded.confirmation?_eq, recorded.isExecuted_index, rfl,
        recorded.address_eq, kept.trans call_eq⟩
    | fails =>
      exact .inr ⟨c.owner, c.index, _, recorded.confirmation?_eq, recorded.isExecuted_index, rfl,
        recorded.address_eq, kept.trans call_eq⟩

/-- An operation that confirms nothing tries no call. -/
lemma Transition.attempts_of_confirmation? (h : Transition d l st now op out attempts)
    (nothing : op.confirmation? l = none) : attempts = [] := by
  rcases h.attempts_cases with none | ⟨_, _, _, asked, _⟩
  · exact none
  · rw [nothing] at asked
    cases asked

/-- An operation that is refused tries no call. -/
lemma Transition.attempts_of_refusal (h : Transition d l st now op out attempts) {e : Error}
    (answer : out.result = .error e) (refusal : e.isRefusal) : attempts = [] := by
  cases h with
  | refuses => rfl
  | revokes => rfl
  | records => rfl
  | confirms _ settled =>
    cases settled with
    | waits => rfl
    | executes => cases answer
    | fails =>
      cases answer
      cases refusal

/-- No call is tried for a transaction that is executed. -/
lemma Transition.attemptsFor_of_isExecuted (h : Transition d l st now op out attempts) {i : Nat}
    (executed : l.isExecuted i) (result : Except Error Reply) (after : Ledger) :
    Step.attemptsFor ⟨op, l, attempts, result, after⟩ i = [] := by
  rw [Step.attemptsFor]
  split
  · rename_i target
    rcases h.attempts_cases with none | ⟨owner, j, a, asked, unexecuted, _⟩
    · exact none
    · simp only [asked, Option.map_some, Option.some.injEq] at target
      rw [← target, unexecuted] at executed
      cases executed
  · rfl

/-- An executed transaction stays executed. -/
lemma invariant_isExecuted (i : Nat) : Invariant fun l => l.isExecuted i :=
  fun h start => h.isExecuted_mono start

lemma attemptsFor_of_isExecuted {i : Nat} (executed : l.isExecuted i)
    (ops : List (Instant × Operation)) : ∀ s ∈ l.trace d st ops, s.attemptsFor i = [] :=
  Invariant.forall_mem_trace (invariant_isExecuted i) executed
    (fun h executed => h.attemptsFor_of_isExecuted executed _ _) ops

/-- Once a transaction is executed, no later step tries its call. -/
lemma pairwise_attemptsFor (ops : List (Instant × Operation)) :
    (l.trace d st ops).Pairwise fun s s' => ∀ i, s.after.isExecuted i → s'.attemptsFor i = [] := by
  induction ops generalizing l st with
  | nil => exact .nil
  | cons o ops ih =>
    refine .cons (fun s' hs' i executed => ?_) ih
    exact attemptsFor_of_isExecuted executed ops s' hs'

/-! ### Exactly once -/

/-- The calls that succeeded between two ledgers are, in order, those of the transactions that
became executed. -/
def Accounts (l final : Ledger) (attempts : List CallAttempt) : Prop :=
  ∃ executed : List Nat, executed.Nodup ∧
    (∀ i, i ∈ executed ↔ ¬ l.isExecuted i ∧ final.isExecuted i) ∧
    List.Forall₂ (fun i a => a.source = l.address ∧ final.callAt? i = some a.call)
      executed (attempts.filter (·.succeeded))

/-- One step more at the start, where what the step leaves behind lasts to the end. -/
lemma Transition.accounts {final : Ledger} {later : List CallAttempt}
    (h : Transition d l st now op out attempts)
    (flags : ∀ i, out.ledger.isExecuted i → final.isExecuted i)
    (calls : ∀ i call, out.ledger.callAt? i = some call → final.callAt? i = some call)
    (rest : Accounts out.ledger final later) : Accounts l final (attempts ++ later) := by
  obtain ⟨executed, nodup, members, pairs⟩ := rest
  rw [h.address_eq] at pairs
  rw [Accounts, List.filter_append]
  rcases h.isExecuted_cases with ⟨failed, same⟩ | ⟨c, reply, recorded, _, tried, found, changed⟩
  · -- nothing succeeds in this step
    refine ⟨executed, nodup, fun i => by rw [members, same], ?_⟩
    rw [List.filter_eq_nil_iff.mpr (by simpa using failed), List.nil_append]
    exact pairs
  · -- the transaction that this step executes comes first
    have done : out.ledger.isExecuted c.index := by simp [changed]
    have call_eq : out.ledger.callAt? c.index = some c.transaction.call := by
      rw [callAt?, found]
      rfl
    refine ⟨c.index :: executed, List.nodup_cons.mpr ⟨fun again => ?_, nodup⟩, fun i => ?_, ?_⟩
    · exact absurd done ((members _).mp again).1
    · rw [List.mem_cons, members, changed]
      by_cases hi : i = c.index
      · simp [hi, recorded.isExecuted_index, flags c.index done]
      · simp [hi]
    · rw [tried]
      exact .cons ⟨rfl, calls _ _ call_eq⟩ pairs

/-- A run accounts for its calls. -/
lemma accounts_run (d : Dispatcher σ) (l : Ledger) (st : σ) (ops : List (Instant × Operation)) :
    Accounts l (l.run d st ops).1 (l.calls d st ops) := by
  rw [calls_eq_flatMap]
  induction ops generalizing l st with
  | nil => exact ⟨[], .nil, by simp [run], .nil⟩
  | cons o ops ih =>
    refine (Transition.of_apply d l st o.1 o.2).accounts (fun i executed => ?_)
      (fun i call given => ?_) (ih _ _)
    · exact Invariant.run (invariant_isExecuted i) executed ops
    · exact Invariant.run (invariant_callAt? i call) given ops

/-- The calls that succeed in a run are one for one those of the transactions that it executes: each
is made in the name of the ledger's address, and it is the call that was given for its transaction.
An operation tries at most one call, and none if it revokes, records a deposit or is refused. From
when a transaction is executed, no more calls are tried for it. -/
theorem dispatched_exactly_once (d : Dispatcher σ) (l : Ledger) (st : σ)
    (ops : List (Instant × Operation)) :
    (∃ executed : List Nat, executed.Nodup ∧
      (∀ i, i ∈ executed ↔ ¬ l.isExecuted i ∧ (l.run d st ops).1.isExecuted i) ∧
      List.Forall₂ (fun i a => a.source = l.address ∧
          ∀ call, IsCallOf l (l.trace d st ops) i call ↔ call = a.call)
        executed ((l.calls d st ops).filter (·.succeeded))) ∧
    (∀ s ∈ l.trace d st ops,
      s.attempts.length ≤ 1 ∧
      (∀ caller i, s.operation = .revoke caller i → s.attempts = []) ∧
      (∀ source amount, s.operation = .deposit source amount → s.attempts = []) ∧
      (∀ e, s.result = .error e → e.isRefusal → s.attempts = []) ∧
      ∀ a ∈ s.attempts, ∃ i, a ∈ s.attemptsFor i ∧ ¬ s.before.isExecuted i ∧
        a.source = l.address ∧ s.after.callAt? i = some a.call) ∧
    (∀ i, l.isExecuted i → ∀ s ∈ l.trace d st ops, s.attemptsFor i = []) ∧
    (l.trace d st ops).Pairwise
      (fun s s' => ∀ i, s.after.isExecuted i → s'.attemptsFor i = []) := by
  refine ⟨?_, ?_, fun i executed => attemptsFor_of_isExecuted executed ops,
    pairwise_attemptsFor ops⟩
  · obtain ⟨executed, nodup, members, pairs⟩ := accounts_run d l st ops
    refine ⟨executed, nodup, members, pairs.imp fun i a ⟨source, call_eq⟩ => ⟨source, ?_⟩⟩
    intro call
    rw [isCallOf_trace_iff, call_eq, Option.some.injEq, eq_comm]
  · refine Invariant.forall_mem_trace (invariant_owners l.owners) rfl ?_ ops
    intro l' st' now op out attempts h owners_eq
    have address_eq : l'.address = l.address := by rw [address, owners_eq, address]
    refine ⟨?_, ?_, ?_, fun e answer refusal => h.attempts_of_refusal answer refusal, ?_⟩
    · rcases h.attempts_cases with none | ⟨_, _, a, _, _, one, _⟩
      · simp [none]
      · simp [one]
    · rintro caller i rfl
      exact h.attempts_of_confirmation? rfl
    · rintro source amount rfl
      exact h.attempts_of_confirmation? rfl
    · intro a ha
      rcases h.attempts_cases with none | ⟨owner, i, a', asked, unexecuted, one, source, call_eq⟩
      · simp [none] at ha
      · obtain rfl : a = a' := by simpa [one] using ha
        refine ⟨i, ?_, by simp [unexecuted], source.trans address_eq, call_eq⟩
        simpa [Step.attemptsFor, asked] using ha

end Quorum.Ledger
