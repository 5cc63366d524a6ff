import Quorum.Proofs.Ledger.Transition

/-!
# Runs of a ledger

A run carries out operations one after the other, each at its time. Its trace shows for every
operation the ledger before and after, the calls that were tried and the answer. What holds of all
steps of all runs is proved by `forall_mem_trace`, from what one transition does.
-/

namespace Quorum.Ledger

open Time (Instant)

variable {σ : Type}

/-- One operation of a run. -/
structure Step where
  operation : Operation
  before : Ledger
  /-- The calls that the dispatcher was asked to carry out. -/
  attempts : List CallAttempt
  result : Except Error Reply
  after : Ledger

/-- The ledger and the dispatcher after some operations. -/
def run (d : Dispatcher σ) (l : Ledger) (st : σ) : List (Instant × Operation) → Ledger × σ
  | [] => (l, st)
  | (now, op) :: ops =>
    let out := l.apply d st now op
    out.ledger.run d out.dispatcher ops

/-- One operation as a step. -/
def step (d : Dispatcher σ) (l : Ledger) (st : σ) (now : Instant) (op : Operation) : Step :=
  let out := l.apply d st now op
  ⟨op, l, l.attempts d st now op, out.result, out.ledger⟩

/-- The steps of a run. -/
def trace (d : Dispatcher σ) (l : Ledger) (st : σ) : List (Instant × Operation) → List Step
  | [] => []
  | (now, op) :: ops =>
    let out := l.apply d st now op
    l.step d st now op :: out.ledger.trace d out.dispatcher ops

/-- The calls that a run asks the dispatcher to carry out, the oldest first. -/
def calls (d : Dispatcher σ) (l : Ledger) (st : σ) (ops : List (Instant × Operation)) :
    List CallAttempt :=
  (l.run d.observed (st, []) ops).2.2

/-! ### Observation -/

variable {d : Dispatcher σ} {l : Ledger} {st : σ} {p : Ledger → Prop}

/-- Listing the calls does not change a run. -/
lemma run_observed (seen : List CallAttempt) (ops : List (Instant × Operation)) :
    l.run d.observed (st, seen) ops = ((l.run d st ops).1, (l.run d st ops).2,
      seen ++ (l.trace d st ops).flatMap (·.attempts)) := by
  induction ops generalizing l st seen with
  | nil => simp [run, trace]
  | cons o ops ih =>
    simp only [run, trace, apply_observed, Outcome.withAttempts, ih, List.flatMap_cons,
      List.append_assoc]
    rfl

/-- The calls of a run are those of its steps. -/
lemma calls_eq_flatMap (ops : List (Instant × Operation)) :
    l.calls d st ops = (l.trace d st ops).flatMap (·.attempts) := by
  rw [calls, run_observed, List.nil_append]

/-! ### Invariants -/

/-- A property of ledgers that every operation keeps, whatever the dispatcher. -/
def Invariant (p : Ledger → Prop) : Prop :=
  ∀ {σ : Type} {d : Dispatcher σ} {l : Ledger} {st : σ} {now : Instant} {op : Operation}
    {out : Outcome σ Reply} {attempts : List CallAttempt},
    Transition d l st now op out attempts → p l → p out.ledger

lemma Invariant.and {q : Ledger → Prop} (hp : Invariant p) (hq : Invariant q) :
    Invariant fun l => p l ∧ q l :=
  fun h start => ⟨hp h start.1, hq h start.2⟩

lemma Invariant.apply (hp : Invariant p) (start : p l) (now : Instant) (op : Operation) :
    p (l.apply d st now op).ledger :=
  hp (Transition.of_apply d l st now op) start

/-- A run ends with every invariant that it starts with. -/
lemma Invariant.run (hp : Invariant p) (start : p l) (ops : List (Instant × Operation)) :
    p (l.run d st ops).1 := by
  induction ops generalizing l st with
  | nil => exact start
  | cons o ops ih => exact ih (hp.apply start o.1 o.2)

/-- What every transition makes true of its step, given an invariant, is true of all steps of a
run. -/
lemma Invariant.forall_mem_trace (hp : Invariant p) {motive : Step → Prop} (start : p l)
    (holds : ∀ {l st now op out attempts}, Transition d l st now op out attempts → p l →
      motive ⟨op, l, attempts, out.result, out.ledger⟩)
    (ops : List (Instant × Operation)) : ∀ s ∈ l.trace d st ops, motive s := by
  induction ops generalizing l st with
  | nil => simp [trace]
  | cons o ops ih =>
    simp only [trace, List.forall_mem_cons]
    exact ⟨holds (Transition.of_apply d l st o.1 o.2) start, ih (hp.apply start o.1 o.2)⟩

/-- What calls keep true of the dispatcher, operations keep true of it. -/
lemma Transition.keeps {now : Instant} {op : Operation} {out : Outcome σ Reply}
    {attempts : List CallAttempt} {p : σ → Prop} (h : Transition d l st now op out attempts)
    (dispatch : ∀ st, p st → ∀ source call, p (d.dispatch st source call).2) (start : p st) :
    p out.dispatcher := by
  cases h with
  | refuses => exact start
  | revokes => exact start
  | records => exact start
  | @confirms _ c _ _ _ _ settled =>
    have called := dispatch st start c.ledger.address c.transaction.call
    cases settled with
    | waits => exact start
    | executes _ answer => rwa [answer] at called
    | fails _ answer => rwa [answer] at called

/-- The owner set is fixed. -/
lemma invariant_owners (owners : OwnerSet) : Invariant fun l => l.owners = owners := by
  intro σ d l st now op out attempts h hl
  cases h with
  | refuses => exact hl
  | revokes => exact hl
  | records => exact hl
  | confirms recorded settled =>
    have := recorded.owners_eq
    cases settled <;> simp [this, hl]

/-- The address is fixed, as it is that of the owner set. -/
lemma Transition.address_eq {now : Instant} {op : Operation} {out : Outcome σ Reply}
    {attempts : List CallAttempt} (h : Transition d l st now op out attempts) :
    out.ledger.address = l.address := by
  rw [address, address, invariant_owners l.owners h rfl]

end Quorum.Ledger
