import Mathlib.Tactic.Lemma
import Quorum.Ledger

/-!
# Operations as data

The operations of a ledger make up one type, so that one can speak of runs of them. To see which
calls an operation hands to a dispatcher, the dispatcher is replaced by one that also lists the
calls it was asked for.
-/

namespace Quorum

open Time (Instant)

variable {σ : Type}

/-- A call that a dispatcher was asked to carry out, and its answer. -/
structure CallAttempt where
  source : Address
  call : Call
  result : Except DispatchError Unit

/-- Whether the call was carried out. -/
def CallAttempt.succeeded (a : CallAttempt) : Bool := a.result.isOk

@[simp] lemma CallAttempt.succeeded_ok (source : Address) (call : Call) :
    (⟨source, call, .ok ()⟩ : CallAttempt).succeeded = true := rfl

@[simp] lemma CallAttempt.succeeded_error (source : Address) (call : Call) (e : DispatchError) :
    (⟨source, call, .error e⟩ : CallAttempt).succeeded = false := rfl

namespace Dispatcher

/-- A dispatcher that also lists the calls it was asked for, the oldest first. -/
def observed (d : Dispatcher σ) : Dispatcher (σ × List CallAttempt) where
  dispatch := fun (st, seen) source call =>
    let (result, st) := d.dispatch st source call
    (result, st, seen ++ [⟨source, call, result⟩])

lemma dispatch_observed (d : Dispatcher σ) (st : σ) (seen : List CallAttempt)
    (source : Address) (call : Call) :
    d.observed.dispatch (st, seen) source call
      = ((d.dispatch st source call).1, (d.dispatch st source call).2,
        seen ++ [⟨source, call, (d.dispatch st source call).1⟩]) := rfl

end Dispatcher

namespace Ledger

/-- What callers may ask of a ledger. -/
inductive Operation where
  | submit (caller : Address) (call : Call)
  | confirm (caller : Address) (index : Nat)
  | revoke (caller : Address) (index : Nat)
  | deposit (source : Address) (amount : Amount)

/-- What an operation answers if it succeeds. -/
inductive Reply where
  | submitted (index : Nat)
  | confirmed (outcome : Confirmed)
  | revoked (left : Nat)
  | recorded
deriving DecidableEq

namespace Outcome

variable {α β γ : Type}

/-- The same outcome with another answer. -/
def map (f : α → β) (out : Outcome σ α) : Outcome σ β :=
  ⟨out.result.map f, out.ledger, out.dispatcher⟩

/-- The same outcome with a list of calls beside the dispatcher. -/
def withAttempts (out : Outcome σ α) (attempts : List CallAttempt) :
    Outcome (σ × List CallAttempt) α :=
  ⟨out.result, out.ledger, out.dispatcher, attempts⟩

@[simp] lemma map_result (f : α → β) (out : Outcome σ α) :
    (out.map f).result = out.result.map f := rfl

@[simp] lemma map_ledger (f : α → β) (out : Outcome σ α) : (out.map f).ledger = out.ledger := rfl

@[simp] lemma map_dispatcher (f : α → β) (out : Outcome σ α) :
    (out.map f).dispatcher = out.dispatcher := rfl

lemma map_map (g : β → γ) (f : α → β) (out : Outcome σ α) :
    (out.map f).map g = out.map fun a => g (f a) := by
  rcases out with ⟨_ | _, _, _⟩ <;> rfl

lemma map_withAttempts (f : α → β) (out : Outcome σ α) (attempts : List CallAttempt) :
    (out.withAttempts attempts).map f = (out.map f).withAttempts attempts := rfl

end Outcome

/-- Carries out an operation at a given time. -/
def apply (d : Dispatcher σ) (l : Ledger) (st : σ) (now : Instant) : Operation → Outcome σ Reply
  | .submit caller call => (l.submit d st now caller call).map .submitted
  | .confirm caller index => (l.confirm d st now caller index).map .confirmed
  | .revoke caller index =>
    let (result, l) := l.revoke now caller index
    ⟨result.map .revoked, l, st⟩
  | .deposit source amount => ⟨.ok .recorded, l.recordDeposit now source amount, st⟩

/-- The calls that an operation asks the dispatcher to carry out, the oldest first. -/
def attempts (d : Dispatcher σ) (l : Ledger) (st : σ) (now : Instant) (op : Operation) :
    List CallAttempt :=
  (l.apply d.observed (st, []) now op).dispatcher.2

end Ledger

end Quorum
