import Mathlib.Tactic.Lemma
import Quorum.Address.Set
import Quorum.Event
import Quorum.OwnerSet

/-!
# Replaying a log of events

Who knows the owner set can follow a log of events from its start, without the ledger. Every event
has to be legal after those before it, and tells what becomes of a transaction. Some events call for
the next one: a submission for the confirmation of its owner, and a confirmation that makes up the
required number for the outcome of the call.
-/

namespace Quorum.Audit

/-! ### What a log tells -/

/-- What a log tells about a transaction. -/
structure Report where
  destination : Address
  value : Amount
  submittedBy : Address
  confirmations : AddressSet
  executed : Bool
  lastFailure : Option String
deriving DecidableEq

namespace Report

/-- A transaction that was submitted and that nobody confirms yet. -/
def submitted (owner destination : Address) (value : Amount) : Report :=
  ⟨destination, value, owner, .empty, false, none⟩

def confirm (t : Report) (owner : Address) : Report :=
  { t with confirmations := t.confirmations.insert owner }

def revoke (t : Report) (owner : Address) : Report :=
  { t with confirmations := t.confirmations.erase owner }

def execute (t : Report) : Report :=
  { t with executed := true, lastFailure := none }

def fail (t : Report) (reason : String) : Report :=
  { t with lastFailure := some reason }

end Report

/-- The event that has to come next. -/
inductive Due where
  | nothing
  | confirmation (index : Nat) (owner : Address)
  /-- The outcome of a call, good or bad. -/
  | outcome (index : Nat)
deriving DecidableEq

/-- What is known after a part of a log. -/
structure Replica where
  reports : List Report
  due : Due
deriving DecidableEq

namespace Replica

/-- What is known before the first event. -/
def empty : Replica := ⟨[], .nothing⟩

/-- Whether the transaction at a position is executed. -/
def isExecuted (r : Replica) (index : Nat) : Bool :=
  r.reports[index]?.any (·.executed)

/-! ### Legal events -/

/-- Whether an event may come next. -/
def Legal (owners : OwnerSet) (r : Replica) : Event → Prop
  | .deposit .. => r.due = .nothing
  | .submission index .. => r.due = .nothing ∧ index = r.reports.length
  | .confirmation index owner =>
    (r.due = .nothing ∨ r.due = .confirmation index owner) ∧ owner ∈ owners.owners ∧
      ∃ t ∈ r.reports[index]?, t.executed = false ∧ owner ∉ t.confirmations
  | .revocation index owner =>
    r.due = .nothing ∧ owner ∈ owners.owners ∧
      ∃ t ∈ r.reports[index]?, t.executed = false ∧ owner ∈ t.confirmations
  | .execution index => r.due = .outcome index ∧ ∃ t ∈ r.reports[index]?, t.executed = false
  | .executionFailure index _ =>
    r.due = .outcome index ∧ ∃ t ∈ r.reports[index]?, t.executed = false

instance (owners : OwnerSet) (r : Replica) : DecidablePred (r.Legal owners)
  | .deposit .. => inferInstanceAs (Decidable (_ = _))
  | .submission .. => inferInstanceAs (Decidable (_ ∧ _))
  | .confirmation .. => inferInstanceAs (Decidable (_ ∧ _))
  | .revocation .. => inferInstanceAs (Decidable (_ ∧ _))
  | .execution .. => inferInstanceAs (Decidable (_ ∧ _))
  | .executionFailure .. => inferInstanceAs (Decidable (_ ∧ _))

/-- What has to follow a confirmation: the outcome of the call, if the required number confirm. -/
def dueAfter (owners : OwnerSet) (reports : List Report) (index : Nat) : Due :=
  if ∃ t ∈ reports[index]?, owners.threshold ≤ t.confirmations.size then .outcome index
  else .nothing

/-- What is known after one more event. -/
def advance (owners : OwnerSet) (r : Replica) : Event → Replica
  | .deposit .. => r
  | .submission index owner destination value =>
    ⟨r.reports ++ [.submitted owner destination value], .confirmation index owner⟩
  | .confirmation index owner =>
    let reports := r.reports.modify index (·.confirm owner)
    ⟨reports, dueAfter owners reports index⟩
  | .revocation index owner => ⟨r.reports.modify index (·.revoke owner), .nothing⟩
  | .execution index => ⟨r.reports.modify index .execute, .nothing⟩
  | .executionFailure index reason => ⟨r.reports.modify index (·.fail reason), .nothing⟩

/-- Takes in one event, unless it is illegal. -/
def accept? (owners : OwnerSet) (r : Replica) (e : Event) : Option Replica :=
  if r.Legal owners e then some (r.advance owners e) else none

/-- Takes in events one after the other, unless one of them is illegal. -/
def follow? (owners : OwnerSet) (r : Replica) (events : List Event) : Option Replica :=
  events.foldlM (accept? owners) r

end Replica

/-- What a whole log tells, unless an event of it is illegal. -/
def replay? (owners : OwnerSet) (events : List Event) : Option Replica :=
  Replica.empty.follow? owners events

variable {owners : OwnerSet} {r r' : Replica} {e : Event} {events : List Event} {i : Nat}

/-- A log with a further legal event. -/
lemma replay?_append_singleton (h : replay? owners events = some r) (legal : r.Legal owners e) :
    replay? owners (events ++ [e]) = some (r.advance owners e) := by
  have h' : events.foldlM (Replica.accept? owners) .empty = some r := h
  simp [replay?, Replica.follow?, h', Replica.accept?, legal]

/-! ### Executed transactions -/

namespace Replica

/-- An event that is legal is not about an executed transaction. -/
lemma Legal.isExecuted_eq_false (legal : r.Legal owners e) (about : e.transactionIndex? = some i) :
    r.isExecuted i = false := by
  cases e with
  | deposit => cases about
  | submission =>
    cases about
    simp [isExecuted, legal.2]
  | confirmation =>
    cases about
    obtain ⟨_, _, t, found, unexecuted, _⟩ := legal
    simp [isExecuted, Option.mem_def.mp found, unexecuted]
  | revocation =>
    cases about
    obtain ⟨_, _, t, found, unexecuted, _⟩ := legal
    simp [isExecuted, Option.mem_def.mp found, unexecuted]
  | execution =>
    cases about
    obtain ⟨_, t, found, unexecuted⟩ := legal
    simp [isExecuted, Option.mem_def.mp found, unexecuted]
  | executionFailure =>
    cases about
    obtain ⟨_, t, found, unexecuted⟩ := legal
    simp [isExecuted, Option.mem_def.mp found, unexecuted]

lemma isExecuted_iff : r.isExecuted i ↔ ∃ t, r.reports[i]? = some t ∧ t.executed := by
  cases h : r.reports[i]? <;> simp [isExecuted, h]

lemma isExecuted_modify {f : Report → Report} (keeps : ∀ t : Report, t.executed → (f t).executed)
    (h : r.isExecuted i) (j : Nat) (due : Due) :
    isExecuted ⟨r.reports.modify j f, due⟩ i := by
  obtain ⟨t, found, executed⟩ := isExecuted_iff.mp h
  refine isExecuted_iff.mpr ⟨if j = i then f t else t, by simp [List.getElem?_modify, found], ?_⟩
  split
  · exact keeps t executed
  · exact executed

/-- What is executed stays executed. -/
lemma isExecuted_advance (h : r.isExecuted i) : (r.advance owners e).isExecuted i := by
  cases e with
  | deposit => exact h
  | submission =>
    obtain ⟨t, found, executed⟩ := isExecuted_iff.mp h
    obtain ⟨inside, _⟩ := List.getElem?_eq_some_iff.mp found
    exact isExecuted_iff.mpr ⟨t, (List.getElem?_append_left inside).trans found, executed⟩
  | confirmation => refine isExecuted_modify (fun t executed => ?_) h _ _; exact executed
  | revocation => refine isExecuted_modify (fun t executed => ?_) h _ _; exact executed
  | execution => refine isExecuted_modify (fun t _ => ?_) h _ _; rfl
  | executionFailure => refine isExecuted_modify (fun t executed => ?_) h _ _; exact executed

/-- An execution is known from then on. -/
lemma Legal.isExecuted_execution (legal : r.Legal owners (.execution i)) :
    (r.advance owners (.execution i)).isExecuted i := by
  obtain ⟨_, t, found, _⟩ := legal
  exact isExecuted_iff.mpr
    ⟨t.execute, by simp [advance, Option.mem_def.mp found], rfl⟩

lemma follow?_cons_eq_some_iff :
    r.follow? owners (e :: events) = some r' ↔
      r.Legal owners e ∧ (r.advance owners e).follow? owners events = some r' := by
  by_cases legal : r.Legal owners e <;> simp [follow?, accept?, legal]

/-- No legal log goes on about an executed transaction. -/
lemma transactionIndex?_ne_of_isExecuted (executed : r.isExecuted i)
    (accepted : r.follow? owners events = some r') :
    ∀ e ∈ events, e.transactionIndex? ≠ some i := by
  induction events generalizing r with
  | nil => simp
  | cons e events ih =>
    obtain ⟨legal, rest⟩ := follow?_cons_eq_some_iff.mp accepted
    refine List.forall_mem_cons.mpr ⟨fun about => ?_, ih (isExecuted_advance executed) rest⟩
    rw [legal.isExecuted_eq_false about] at executed
    cases executed

/-- In a legal log, the execution of a transaction is the last event about it. -/
lemma pairwise_of_follow? (accepted : r.follow? owners events = some r') :
    events.Pairwise fun e e' => ∀ i, e = .execution i → e'.transactionIndex? ≠ some i := by
  induction events generalizing r with
  | nil => exact .nil
  | cons e events ih =>
    obtain ⟨legal, rest⟩ := follow?_cons_eq_some_iff.mp accepted
    refine .cons ?_ (ih rest)
    rintro e' he' i rfl
    exact transactionIndex?_ne_of_isExecuted legal.isExecuted_execution rest e' he'

end Replica

/-- In a log that can be replayed, the execution of a transaction is the last event about it. -/
theorem pairwise_of_replay? (accepted : replay? owners events = some r) :
    events.Pairwise fun e e' => ∀ i, e = .execution i → e'.transactionIndex? ≠ some i :=
  Replica.pairwise_of_follow? accepted

end Quorum.Audit
