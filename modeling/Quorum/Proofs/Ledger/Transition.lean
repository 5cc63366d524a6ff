import Quorum.Proofs.Ledger.Operation

/-!
# What one operation does

`Transition` lists all that an operation can do to a ledger: it is refused, it records a deposit or
a revocation, or it records a confirmation, after which the transaction is settled in one of the
three ways of `Settled`. Facts about all operations are proved by cases on it.
-/

namespace Quorum.Ledger

open Time (Instant)

variable {σ : Type}

/-! ### Refusals -/

/-- Whether the transaction at a position is executed. -/
def isExecuted (l : Ledger) (index : Nat) : Bool :=
  l.transactions[index]?.any (·.executed)

/-- Whether an owner confirms the transaction at a position. -/
def isConfirmedBy (l : Ledger) (index : Nat) (owner : Address) : Bool :=
  l.transactions[index]?.any (·.confirmations.contains owner)

/-- What may speak against a caller's wish to change a transaction, in the order in which it counts;
`last` is what remains to be asked of an open transaction. -/
def objectionsTo (l : Ledger) (caller : Address) (index : Nat) (last : Bool × Error) :
    List (Bool × Error) :=
  [(!l.owners.contains caller, .notOwner caller),
    (l.transactions.length ≤ index, .invalidIndex index),
    (l.isExecuted index, .alreadyExecuted index), last]

/-- What may speak against an operation, each condition with the error that reports it. -/
def objections (l : Ledger) : Operation → List (Bool × Error)
  | .submit caller _ => [(!l.owners.contains caller, .notOwner caller)]
  | .confirm caller index =>
    l.objectionsTo caller index (l.isConfirmedBy index caller, .alreadyConfirmed index caller)
  | .revoke caller index =>
    l.objectionsTo caller index (!l.isConfirmedBy index caller, .notConfirmed index caller)
  | .deposit .. => []

/-- The owner and the transaction that an operation asks to bring together. -/
def Operation.confirmation? (l : Ledger) : Operation → Option (Address × Nat)
  | .submit caller _ => some (caller, l.transactions.length)
  | .confirm caller index => some (caller, index)
  | .revoke .. => none
  | .deposit .. => none

/-- The first objection that applies. -/
def firstObjection? (l : Ledger) (op : Operation) : Option Error :=
  ((l.objections op).find? (·.1)).map (·.2)

lemma isRefusal_of_firstObjection? {l : Ledger} {op : Operation} {e : Error}
    (h : l.firstObjection? op = some e) : e.isRefusal = true := by
  obtain ⟨⟨b, e'⟩, hfound, rfl⟩ := Option.map_eq_some_iff.mp h
  have hmem := List.mem_of_find?_eq_some hfound
  cases op <;> simp only [objections, objectionsTo, List.mem_cons, List.not_mem_nil,
    Prod.mk.injEq, or_false] at hmem
  case submit => simp [hmem, Error.isRefusal]
  all_goals rcases hmem with ⟨_, rfl⟩ | ⟨_, rfl⟩ | ⟨_, rfl⟩ | ⟨_, rfl⟩ <;> rfl

lemma isExecuted_of_getElem? {l : Ledger} {index : Nat} {t : Transaction}
    (h : l.transactions[index]? = some t) : l.isExecuted index = t.executed := by
  simp [isExecuted, h]

lemma isConfirmedBy_of_getElem? {l : Ledger} {index : Nat} {t : Transaction} {owner : Address}
    (h : l.transactions[index]? = some t) :
    l.isConfirmedBy index owner = t.confirmations.contains owner := by
  simp [isConfirmedBy, h]

/-- Of an owner's wish to change an open transaction only the last question remains. -/
lemma find?_objectionsTo {l : Ledger} {caller : Address} {index : Nat} {t : Transaction}
    {last : Bool × Error} (owner : caller ∈ l.owners.owners)
    (found : l.transactions[index]? = some t) (unexecuted : t.executed = false) :
    (l.objectionsTo caller index last).find? (·.1) = [last].find? (·.1) := by
  have inside : ¬ l.transactions.length ≤ index := by
    rw [← List.getElem?_eq_none_iff, found]
    simp
  simp [objectionsTo, List.find?_cons, owner, inside, isExecuted_of_getElem? found, unexecuted]

/-- An open transaction is one that exists and is not executed. -/
lemma openTransaction_eq_ok_iff {l : Ledger} {index : Nat} {t : Transaction} :
    l.openTransaction index = .ok t ↔ l.transactions[index]? = some t ∧ t.executed = false := by
  unfold openTransaction
  split
  · simp [*]
  · rename_i t' h
    rw [h, Option.some.injEq]
    cases hexec : t'.executed with
    | false =>
      simp only [Bool.false_eq_true, if_false, Except.ok.injEq]
      constructor
      · rintro rfl
        exact ⟨rfl, hexec⟩
      · exact fun h => h.1
    | true =>
      simp only [if_true, reduceCtorEq, false_iff, not_and]
      rintro rfl
      simp [hexec]

/-! ### Confirmations -/

/-- The ledger with a new call, confirmed by the owner who proposes it. -/
def withProposal (l : Ledger) (now : Instant) (caller : Address) (call : Call) : Ledger :=
  let index := l.transactions.length
  let l := { l with transactions := l.transactions ++ [Transaction.propose index call caller now] }
  (l.record now (.submission index caller call.destination call.value)).record now
    (.confirmation index caller)

/-- The ledger with one more confirmation of a transaction. -/
def withConfirmation (l : Ledger) (now : Instant) (caller : Address) (index : Nat)
    (t : Transaction) : Ledger :=
  (l.replace index (t.confirm caller)).record now (.confirmation index caller)

/-- A confirmation that was recorded: whose it is, and the transaction and the ledger with it. -/
structure Confirmation where
  owner : Address
  index : Nat
  transaction : Transaction
  ledger : Ledger

/-- What an operation confirms, and what it answers once the transaction is settled. -/
inductive Confirms (l : Ledger) (now : Instant) : Operation → Confirmation → (Bool → Reply) → Prop
  | submit {caller : Address} {call : Call} (owner : caller ∈ l.owners.owners) :
      Confirms l now (.submit caller call)
        ⟨caller, l.transactions.length, .propose l.transactions.length call caller now,
          l.withProposal now caller call⟩
        fun _ => .submitted l.transactions.length
  | confirm {caller : Address} {index : Nat} {t : Transaction} (owner : caller ∈ l.owners.owners)
      (found : l.transactions[index]? = some t) (unexecuted : t.executed = false)
      (fresh : caller ∉ t.confirmations) :
      Confirms l now (.confirm caller index)
        ⟨caller, index, t.confirm caller, l.withConfirmation now caller index t⟩
        fun executed => .confirmed ⟨index, executed, (t.confirm caller).count⟩

namespace Confirms

variable {l : Ledger} {now : Instant} {op : Operation} {c : Confirmation} {reply : Bool → Reply}

lemma owner_mem (h : Confirms l now op c reply) : c.owner ∈ l.owners.owners := by
  cases h with
  | submit owner => exact owner
  | confirm owner => exact owner

lemma owners_eq (h : Confirms l now op c reply) : c.ledger.owners = l.owners := by
  cases h <;> rfl

lemma required_eq (h : Confirms l now op c reply) : c.ledger.required = l.required := by
  rw [required, h.owners_eq, required]

lemma address_eq (h : Confirms l now op c reply) : c.ledger.address = l.address := by
  rw [address, h.owners_eq, address]

lemma unexecuted (h : Confirms l now op c reply) : c.transaction.executed = false := by
  cases h with
  | submit => rfl
  | confirm _ _ unexecuted => exact unexecuted

lemma getElem?_index (h : Confirms l now op c reply) :
    c.ledger.transactions[c.index]? = some c.transaction := by
  cases h with
  | submit => simp [withProposal]
  | confirm _ found =>
    obtain ⟨inside, _⟩ := List.getElem?_eq_some_iff.mp found
    simp [withConfirmation, inside]

lemma getElem?_of_ne (h : Confirms l now op c reply) {j : Nat} (hj : j ≠ c.index) :
    c.ledger.transactions[j]? = l.transactions[j]? := by
  cases h with
  | submit =>
    simp only [withProposal, transactions_record]
    rcases Nat.lt_or_gt_of_ne hj with hlt | hgt
    · exact List.getElem?_append_left hlt
    · have outside : l.transactions.length < j := hgt
      rw [List.getElem?_eq_none (by simp; omega), List.getElem?_eq_none (by omega)]
  | confirm => simp [withConfirmation, List.getElem?_set_ne (Ne.symm hj)]

lemma confirmation?_eq (h : Confirms l now op c reply) :
    op.confirmation? l = some (c.owner, c.index) := by
  cases h <;> rfl

/-- The transaction was not executed before the confirmation. -/
lemma isExecuted_index (h : Confirms l now op c reply) : l.isExecuted c.index = false := by
  cases h with
  | submit => simp [isExecuted]
  | confirm _ found unexecuted => rw [isExecuted_of_getElem? found, unexecuted]

/-- The owner did not confirm the transaction before. -/
lemma isConfirmedBy_owner (h : Confirms l now op c reply) :
    l.isConfirmedBy c.index c.owner = false := by
  cases h with
  | submit => simp [isConfirmedBy]
  | confirm _ found _ fresh => simpa [isConfirmedBy_of_getElem? found] using fresh

/-- One owner joins those who confirm the transaction. -/
lemma mem_confirmations (h : Confirms l now op c reply) {x : Address} :
    x ∈ c.transaction.confirmations ↔ x = c.owner ∨ l.isConfirmedBy c.index x = true := by
  cases h with
  | submit => simp [isConfirmedBy]
  | confirm _ found => simp [isConfirmedBy_of_getElem? found]

end Confirms

/-- What becomes of a transaction after a confirmation was recorded: it waits for more of them, or
its call is tried, which succeeds or fails. -/
inductive Settled (d : Dispatcher σ) (st : σ) (now : Instant) (c : Confirmation) :
    Outcome σ Bool → List CallAttempt → Prop
  | waits (few : c.transaction.count < c.ledger.required) :
      Settled d st now c ⟨.ok false, c.ledger, st⟩ []
  | executes {st' : σ} (enough : c.ledger.required ≤ c.transaction.count)
      (answer : d.dispatch st c.ledger.address c.transaction.call = (.ok (), st')) :
      Settled d st now c
        ⟨.ok true, (c.ledger.replace c.index (c.transaction.markExecuted now)).record now
          (.execution c.index), st'⟩
        [⟨c.ledger.address, c.transaction.call, .ok ()⟩]
  | fails {st' : σ} {e : DispatchError} (enough : c.ledger.required ≤ c.transaction.count)
      (answer : d.dispatch st c.ledger.address c.transaction.call = (.error e, st')) :
      Settled d st now c
        ⟨.error (.executionFailed c.index e.message),
          (c.ledger.replace c.index (c.transaction.recordFailure e.message)).record now
            (.executionFailure c.index e.message), st'⟩
        [⟨c.ledger.address, c.transaction.call, .error e⟩]

lemma Settled.of_executeIfReady (d : Dispatcher σ) (st : σ) (now : Instant) (c : Confirmation)
    (unexecuted : c.transaction.executed = false) :
    ∃ attempts, Settled d st now c
        (c.ledger.executeIfReady d st now c.index c.transaction) attempts ∧
      ∀ seen, c.ledger.executeIfReady d.observed (st, seen) now c.index c.transaction
        = (c.ledger.executeIfReady d st now c.index c.transaction).withAttempts
          (seen ++ attempts) := by
  unfold executeIfReady
  by_cases h : c.transaction.executed ∨ c.transaction.count < c.ledger.required
  · simp only [if_pos h]
    exact ⟨[], .waits (h.resolve_left (by simp [unexecuted])),
      fun seen => by rw [List.append_nil]; rfl⟩
  · have enough : c.ledger.required ≤ c.transaction.count :=
      Nat.le_of_not_lt fun few => h (.inr few)
    simp only [if_neg h, Dispatcher.dispatch_observed]
    cases answer : d.dispatch st c.ledger.address c.transaction.call with
    | mk result st' =>
      cases result with
      | ok u => exact ⟨_, .executes enough answer, fun seen => rfl⟩
      | error e => exact ⟨_, .fails enough answer, fun seen => rfl⟩

namespace Settled

variable {d : Dispatcher σ} {st : σ} {now : Instant} {c : Confirmation} {out : Outcome σ Bool}
  {attempts : List CallAttempt}

lemma required_eq (h : Settled d st now c out attempts) :
    out.ledger.required = c.ledger.required := by
  cases h <;> rfl

/-- Only the transaction that was confirmed is settled. -/
lemma getElem?_of_ne (h : Settled d st now c out attempts) {j : Nat} (hj : j ≠ c.index) :
    out.ledger.transactions[j]? = c.ledger.transactions[j]? := by
  cases h with
  | waits => rfl
  | executes => simp [List.getElem?_set_ne (Ne.symm hj)]
  | fails => simp [List.getElem?_set_ne (Ne.symm hj)]

end Settled

/-! ### Transitions -/

/-- What an operation does to a ledger, and which calls it tries. -/
inductive Transition (d : Dispatcher σ) (l : Ledger) (st : σ) (now : Instant) :
    Operation → Outcome σ Reply → List CallAttempt → Prop
  | refuses {op : Operation} {e : Error} (objection : l.firstObjection? op = some e) :
      Transition d l st now op ⟨.error e, l, st⟩ []
  | confirms {op : Operation} {c : Confirmation} {reply : Bool → Reply} {out : Outcome σ Bool}
      {attempts : List CallAttempt} (recorded : Confirms l now op c reply)
      (settled : Settled d st now c out attempts) :
      Transition d l st now op (out.map reply) attempts
  | revokes {caller : Address} {index : Nat} {t : Transaction}
      (owner : caller ∈ l.owners.owners) (found : l.transactions[index]? = some t)
      (unexecuted : t.executed = false) (confirmed : caller ∈ t.confirmations) :
      Transition d l st now (.revoke caller index)
        ⟨.ok (.revoked (t.revoke caller).count),
          (l.replace index (t.revoke caller)).record now (.revocation index caller), st⟩ []
  | records {source : Address} {amount : Amount} :
      Transition d l st now (.deposit source amount)
        ⟨.ok .recorded, l.recordDeposit now source amount, st⟩ []

/-- An operation makes a transition, and an observer of its dispatcher sees just the calls that the
transition lists. -/
private def Observed (d : Dispatcher σ) (l : Ledger) (st : σ) (now : Instant) (op : Operation) :
    Prop :=
  ∃ attempts, Transition d l st now op (l.apply d st now op) attempts ∧
    ∀ seen, l.apply d.observed (st, seen) now op
      = (l.apply d st now op).withAttempts (seen ++ attempts)

section

variable (d : Dispatcher σ) (l : Ledger) (st : σ) (now : Instant)

private lemma observed_of_refused {op : Operation} {e : Error}
    (objection : l.firstObjection? op = some e)
    (h : ∀ {τ : Type} (d : Dispatcher τ) (st : τ), l.apply d st now op = ⟨.error e, l, st⟩) :
    Observed d l st now op := by
  refine ⟨[], ?_, fun seen => ?_⟩
  · rw [h]
    exact .refuses objection
  · rw [h, h, List.append_nil]
    rfl

private lemma observed_of_confirms {op : Operation} {c : Confirmation} {reply : Bool → Reply}
    (recorded : Confirms l now op c reply)
    (h : ∀ {τ : Type} (d : Dispatcher τ) (st : τ), l.apply d st now op
      = (c.ledger.executeIfReady d st now c.index c.transaction).map reply) :
    Observed d l st now op := by
  obtain ⟨attempts, settled, observed⟩ :=
    Settled.of_executeIfReady d st now c recorded.unexecuted
  refine ⟨attempts, ?_, fun seen => ?_⟩
  · rw [h]
    exact .confirms recorded settled
  · rw [h, h, observed, Outcome.map_withAttempts]

private lemma observed_submit (caller : Address) (call : Call) :
    Observed d l st now (.submit caller call) := by
  by_cases stranger : (!l.owners.contains caller) = true
  · refine observed_of_refused d l st now (e := .notOwner caller) ?_ fun d st => ?_
    · simp [firstObjection?, objections, stranger]
    · simp only [apply, submit, if_pos stranger]
      rfl
  · refine observed_of_confirms d l st now (.submit (by simpa using stranger)) fun d st => ?_
    simp only [apply, submit, if_neg stranger]
    exact Outcome.map_map ..

/-- The first objection to changing a transaction that is not open. -/
private lemma firstObjection?_of_closed {op : Operation} {caller : Address} {index : Nat}
    {e : Error} {last : Bool × Error} (closed : l.openTransaction index = .error e)
    (owner : caller ∈ l.owners.owners) (hop : l.objections op = l.objectionsTo caller index last) :
    l.firstObjection? op = some e := by
  unfold openTransaction at closed
  split at closed
  · rename_i missing
    cases closed
    simp [firstObjection?, hop, objectionsTo, owner, List.getElem?_eq_none_iff.mp missing]
  · rename_i t found
    split at closed
    · rename_i executed
      cases closed
      have inside : ¬ l.transactions.length ≤ index := by
        rw [← List.getElem?_eq_none_iff, found]
        simp
      simp [firstObjection?, hop, objectionsTo, owner, isExecuted_of_getElem? found, executed,
        inside]
    · cases closed

private lemma observed_confirm (caller : Address) (index : Nat) :
    Observed d l st now (.confirm caller index) := by
  by_cases stranger : (!l.owners.contains caller) = true
  · refine observed_of_refused d l st now (e := .notOwner caller) ?_ fun d st => ?_
    · simp [firstObjection?, objections, objectionsTo, stranger]
    · simp only [apply, confirm, if_pos stranger]
      rfl
  · have owner : caller ∈ l.owners.owners := by simpa using stranger
    cases opened : l.openTransaction index with
    | error e =>
      refine observed_of_refused d l st now (firstObjection?_of_closed l opened owner rfl)
        fun d st => ?_
      simp only [apply, confirm, if_neg stranger, opened]
      rfl
    | ok t =>
      obtain ⟨found, unexecuted⟩ := openTransaction_eq_ok_iff.mp opened
      by_cases again : t.confirmations.contains caller = true
      · refine observed_of_refused d l st now (e := .alreadyConfirmed index caller) ?_
          fun d st => ?_
        · simp only [firstObjection?, objections, find?_objectionsTo owner found unexecuted]
          simp [isConfirmedBy_of_getElem? found, again]
        · simp only [apply, confirm, if_neg stranger, opened, if_pos again]
          rfl
      · refine observed_of_confirms d l st now
          (.confirm owner found unexecuted (by simpa using again)) fun d st => ?_
        simp only [apply, confirm, if_neg stranger, opened, if_neg again]
        exact Outcome.map_map ..

private lemma observed_revoke (caller : Address) (index : Nat) :
    Observed d l st now (.revoke caller index) := by
  by_cases stranger : (!l.owners.contains caller) = true
  · refine observed_of_refused d l st now (e := .notOwner caller) ?_ fun d st => ?_
    · simp [firstObjection?, objections, objectionsTo, stranger]
    · simp only [apply, revoke, if_pos stranger]
      rfl
  · have owner : caller ∈ l.owners.owners := by simpa using stranger
    cases opened : l.openTransaction index with
    | error e =>
      refine observed_of_refused d l st now (firstObjection?_of_closed l opened owner rfl)
        fun d st => ?_
      simp only [apply, revoke, if_neg stranger, opened]
      rfl
    | ok t =>
      obtain ⟨found, unexecuted⟩ := openTransaction_eq_ok_iff.mp opened
      by_cases confirmed : t.confirmations.contains caller = true
      · have h : ∀ {τ : Type} (d : Dispatcher τ) (st : τ), l.apply d st now (.revoke caller index)
            = ⟨.ok (.revoked (t.revoke caller).count),
              (l.replace index (t.revoke caller)).record now (.revocation index caller), st⟩ := by
          intro τ d st
          simp only [apply, revoke, if_neg stranger, opened, if_pos confirmed]
          rfl
        refine ⟨[], ?_, fun seen => ?_⟩
        · rw [h]
          exact .revokes owner found unexecuted (by simpa using confirmed)
        · rw [h, h, List.append_nil]
          rfl
      · refine observed_of_refused d l st now (e := .notConfirmed index caller) ?_ fun d st => ?_
        · simp only [firstObjection?, objections, find?_objectionsTo owner found unexecuted]
          simp [isConfirmedBy_of_getElem? found, confirmed]
        · simp only [apply, revoke, if_neg stranger, opened, if_neg confirmed]
          rfl

private lemma observed_of_operation (op : Operation) : Observed d l st now op := by
  cases op with
  | submit caller call => exact observed_submit d l st now caller call
  | confirm caller index => exact observed_confirm d l st now caller index
  | revoke caller index => exact observed_revoke d l st now caller index
  | deposit source amount =>
    exact ⟨[], .records, fun seen => by rw [List.append_nil]; rfl⟩

/-- An operation does the same whether its calls are listed or not; those that it tries are added
at the end of the list. -/
theorem apply_observed (seen : List CallAttempt) (op : Operation) :
    l.apply d.observed (st, seen) now op
      = (l.apply d st now op).withAttempts (seen ++ l.attempts d st now op) := by
  obtain ⟨attempts, _, observed⟩ := observed_of_operation d l st now op
  rw [Ledger.attempts, observed, observed]
  rfl

/-- Every operation makes one of the transitions. -/
theorem Transition.of_apply (op : Operation) :
    Transition d l st now op (l.apply d st now op) (l.attempts d st now op) := by
  obtain ⟨attempts, h, observed⟩ := observed_of_operation d l st now op
  rw [Ledger.attempts, observed]
  exact h

end

end Quorum.Ledger
