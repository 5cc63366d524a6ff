import Quorum.Proofs.Audit.Log
import Quorum.Proofs.Ledger.Execution

/-!
# What owners did, as the log tells it

A log lists the deeds of owners among other events, and a submission takes two events. An operation
of a ledger adds at most one deed to its log, which is what its caller asked for.
-/

namespace Quorum

namespace Audit

/-- Something that an owner did. -/
inductive Deed where
  | submitted (index : Nat) (owner destination : Address) (value : Amount)
  /-- A submission that its owner does not confirm at once. -/
  | proposed (index : Nat) (owner : Address)
  | confirmed (index : Nat) (owner : Address)
  | revoked (index : Nat) (owner : Address)
deriving DecidableEq

def Deed.owner : Deed → Address
  | .submitted _ owner _ _ => owner
  | .proposed _ owner => owner
  | .confirmed _ owner => owner
  | .revoked _ owner => owner

/-- The deeds that a log lists, in its order. A submission and the confirmation by its owner that
comes right after it are one deed; every other confirmation is a deed of its own. -/
def deeds : List Event → List Deed
  | [] => []
  | .submission index owner destination value :: .confirmation index' owner' :: log =>
    if index' = index ∧ owner' = owner then .submitted index owner destination value :: deeds log
    else .proposed index owner :: .confirmed index' owner' :: deeds log
  | .submission index owner _ _ :: log => .proposed index owner :: deeds log
  | .confirmation index owner :: log => .confirmed index owner :: deeds log
  | .revocation index owner :: log => .revoked index owner :: deeds log
  | .deposit .. :: log | .execution _ :: log | .executionFailure .. :: log => deeds log

/-- The log does not break off after a submission. -/
def Closed (log : List Event) : Prop :=
  ∀ index owner destination value, log.getLast? ≠ some (.submission index owner destination value)

variable {log : List Event}

lemma Closed.tail {e : Event} (h : Closed (e :: log)) : Closed log := by
  intro index owner destination value last
  cases log with
  | nil => cases last
  | cons e' log => exact h index owner destination value (by rwa [List.getLast?_cons_cons])

lemma deeds_append (closed : Closed log) (es : List Event) :
    deeds (log ++ es) = deeds log ++ deeds es := by
  induction log using deeds.induct with
  | case1 => rfl
  | case2 index owner destination value index' owner' log same ih =>
    simp [deeds, same, ih closed.tail.tail]
  | case3 index owner destination value index' owner' log different ih =>
    simp [deeds, different, ih closed.tail.tail]
  | case4 index owner destination value log other ih =>
    cases log with
    | nil => exact absurd rfl (closed index owner destination value)
    | cons e log =>
      have rest := ih closed.tail
      cases e with
      | confirmation index' owner' => exact absurd rfl (other index' owner' log)
      | _ => simpa [deeds] using rest
  | case5 index owner log ih => simp [deeds, ih closed.tail]
  | case6 index owner log ih => simp [deeds, ih closed.tail]
  | case7 source amount log ih => simp [deeds, ih closed.tail]
  | case8 index log ih => simp [deeds, ih closed.tail]
  | case9 index reason log ih => simp [deeds, ih closed.tail]

end Audit

namespace Ledger

open Audit (Closed Deed deeds deeds_append)
open Time (Instant)

variable {σ : Type} {d : Dispatcher σ} {l : Ledger} {st : σ} {now : Instant} {op : Operation}
  {c : Confirmation} {attempts : List CallAttempt}

/-- The deed is what an operation asks for. The call of a submission is the one that the ledger
holds. -/
inductive Does (l : Ledger) : Operation → Deed → Prop
  | submit {index : Nat} {caller : Address} {call : Call} (held : l.callAt? index = some call) :
      Does l (.submit caller call) (.submitted index caller call.destination call.value)
  | confirm {index : Nat} {caller : Address} :
      Does l (.confirm caller index) (.confirmed index caller)
  | revoke {index : Nat} {caller : Address} :
      Does l (.revoke caller index) (.revoked index caller)

lemma invariant_does (op : Operation) (deed : Deed) : Invariant fun l => l.Does op deed := by
  intro σ d l st now op' out attempts h does
  cases does with
  | submit held => exact .submit (invariant_callAt? _ _ h held)
  | confirm => exact .confirm
  | revoke => exact .revoke

lemma closed_record {event : Event}
    (h : ∀ index owner destination value, event ≠ .submission index owner destination value) :
    Closed (l.record now event).log := by
  intro index owner destination value last
  rw [log_record, List.getLast?_concat] at last
  exact h index owner destination value (Option.some.inj last)

/-- A recorded confirmation is a deed. -/
lemma Confirms.deeds_eq {reply : Bool → Reply} (h : Confirms l now op c reply)
    (closed : Closed l.log) :
    ∃ deed, c.ledger.Does op deed ∧ deeds c.ledger.log = deeds l.log ++ [deed] := by
  cases h with
  | @submit caller call =>
    have held : (l.withProposal now caller call).callAt? l.transactions.length = some call := by
      rw [callAt?_withProposal, if_pos rfl]
    refine ⟨_, .submit held, ?_⟩
    rw [withProposal, log_record, log_record, List.append_assoc]
    exact (deeds_append closed _).trans (by simp [deeds])
  | @confirm caller index t =>
    refine ⟨_, .confirm, ?_⟩
    rw [withConfirmation, log_record]
    exact deeds_append closed _

lemma Confirms.closed {reply : Bool → Reply} (h : Confirms l now op c reply) :
    Closed c.ledger.log := by
  cases h <;> exact closed_record (by simp)

/-- How a call goes is nobody's deed. -/
lemma Settled.deeds_eq {out : Outcome σ Bool} (h : Settled d st now c out attempts)
    (closed : Closed c.ledger.log) :
    Closed out.ledger.log ∧ deeds out.ledger.log = deeds c.ledger.log := by
  cases h with
  | waits => exact ⟨closed, rfl⟩
  | executes =>
    refine ⟨closed_record (by simp), ?_⟩
    rw [log_record]
    exact (deeds_append closed _).trans (List.append_nil _)
  | fails =>
    refine ⟨closed_record (by simp), ?_⟩
    rw [log_record]
    exact (deeds_append closed _).trans (List.append_nil _)

/-- An operation adds at most one deed to the log. -/
lemma Transition.deeds_eq {out : Outcome σ Reply} (h : Transition d l st now op out attempts)
    (closed : Closed l.log) :
    Closed out.ledger.log ∧ ∃ done : Option Deed, (∀ deed ∈ done, out.ledger.Does op deed) ∧
      deeds out.ledger.log = deeds l.log ++ done.toList := by
  cases h with
  | refuses => exact ⟨closed, none, by simp, by simp⟩
  | records =>
    refine ⟨closed_record (by simp), none, by simp, ?_⟩
    rw [recordDeposit, log_record]
    exact deeds_append closed _
  | @revokes caller index =>
    refine ⟨closed_record (by simp), some (.revoked index caller), ?_, ?_⟩
    · rintro _ ⟨⟩
      exact .revoke
    · rw [log_record]
      exact deeds_append closed _
  | @confirms _ c _ _ _ recorded settled =>
    obtain ⟨deed, does, more⟩ := recorded.deeds_eq closed
    obtain ⟨whole, same⟩ := settled.deeds_eq recorded.closed
    refine ⟨whole, some deed, ?_, by rw [Outcome.map_ledger, same, more]; rfl⟩
    rintro _ ⟨⟩
    cases does with
    | submit held => exact .submit ((settled.callAt?_eq recorded.getElem?_index _).trans held)
    | confirm => exact .confirm
    | revoke => exact .revoke

end Ledger

end Quorum
