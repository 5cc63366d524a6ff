import Quorum.Proofs.Ledger.Transition

/-!
# What failures mean

An operation is refused exactly if something speaks against it, and then reports the first
objection. The only other failure is that of a call that was tried.
-/

namespace Quorum.Ledger

open Time (Instant)

variable {σ : Type} {d : Dispatcher σ} {l : Ledger} {st : σ} {now : Instant} {op : Operation}
  {out : Outcome σ Reply} {attempts : List CallAttempt}

/-! ### Refusals -/

/-- Nothing speaks against a confirmation that is recorded. -/
lemma Confirms.firstObjection?_eq_none {c : Confirmation} {reply : Bool → Reply}
    (h : Confirms l now op c reply) : l.firstObjection? op = none := by
  cases h with
  | submit owner => simp [firstObjection?, objections, owner]
  | confirm owner found unexecuted fresh =>
    simp only [firstObjection?, objections, find?_objectionsTo owner found unexecuted]
    simp [isConfirmedBy_of_getElem? found, fresh]

/-- An operation to which there is an objection is refused with the first one, and changes
nothing. -/
lemma Transition.eq_of_firstObjection? (h : Transition d l st now op out attempts) {e : Error}
    (objection : l.firstObjection? op = some e) : out = ⟨.error e, l, st⟩ := by
  cases h with
  | refuses objection' =>
    rw [objection, Option.some.injEq] at objection'
    rw [objection']
  | confirms recorded =>
    rw [recorded.firstObjection?_eq_none] at objection
    cases objection
  | revokes owner found unexecuted confirmed =>
    simp only [firstObjection?, objections, find?_objectionsTo owner found unexecuted] at objection
    simp [isConfirmedBy_of_getElem? found, confirmed] at objection
  | records => cases objection

/-- A refusal reports the first objection. -/
lemma Transition.firstObjection?_of_refusal (h : Transition d l st now op out attempts) {e : Error}
    (answer : out.result = .error e) (refusal : e.isRefusal) :
    l.firstObjection? op = some e := by
  cases h with
  | refuses objection =>
    cases answer
    exact objection
  | confirms _ settled =>
    cases settled with
    | waits => cases answer
    | executes => cases answer
    | fails =>
      cases answer
      cases refusal
  | revokes => cases answer
  | records => cases answer

/-! ### Failed calls -/

/-- Only a call that was tried and failed is reported as such. -/
lemma Transition.of_executionFailed (h : Transition d l st now op out attempts) {index : Nat}
    {reason : String} (answer : out.result = .error (.executionFailed index reason)) :
    ∃ c reply e, Confirms l now op c reply ∧ c.index = index ∧ e.message = reason ∧
      d.dispatch st c.ledger.address c.transaction.call = (.error e, out.dispatcher) ∧
      out.ledger = (c.ledger.replace index (c.transaction.recordFailure reason)).record now
        (.executionFailure index reason) := by
  cases h with
  | refuses objection =>
    have refusal := isRefusal_of_firstObjection? objection
    cases answer
    cases refusal
  | @confirms _ c reply _ _ recorded settled =>
    cases settled with
    | waits => cases answer
    | executes => cases answer
    | @fails _ e _ tried =>
      cases answer
      exact ⟨c, reply, e, recorded, rfl, rfl, tried, rfl⟩
  | revokes => cases answer
  | records => cases answer

end Quorum.Ledger
