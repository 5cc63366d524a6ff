import Quorum.Proofs.Wallet.Accounting
import Quorum.Time.Epoch

/-!
# The sum of all balances

A deposit adds its amount to the sum of all balances, and no other operation changes the sum, except
for the excess: what a credit to a balance would bring beyond the greatest amount is lost, though
the operation succeeds.
-/

namespace Quorum.Wallet

open Ledger (Operation Transition)
open Time (Instant)

/-- A deposit adds its amount, less the excess. No other operation moves funds unless it executes a
call to another address; that takes exactly the value from the wallet and gives it to the
destination, less the excess, so that the sum stays the same, less the excess. There is no excess
exactly if the balance and what is added to it make up an amount. -/
theorem total_less_excess (w : Wallet) (now : Instant) (op : Operation) :
    let w' := (w.apply now op).2
    let attempts := w.ledger.attempts Treasury.dispatcher w.treasury now op
    (∀ source amount, op = .deposit source amount →
      w'.treasury.total + w.treasury.excess w.address amount
        = w.treasury.total + amount.units) ∧
    ((∀ source amount, op ≠ .deposit source amount) →
      (∀ a ∈ attempts, a.succeeded → a.call.destination = w.address) →
      w'.treasury.balances = w.treasury.balances) ∧
    (∀ a ∈ attempts, a.succeeded → a.call.destination ≠ w.address →
      w'.balance.units + a.call.value.units = w.balance.units ∧
      (w'.treasury.balanceOf a.call.destination).units
          + w.treasury.excess a.call.destination a.call.value
        = (w.treasury.balanceOf a.call.destination).units + a.call.value.units ∧
      w'.treasury.total + w.treasury.excess a.call.destination a.call.value
        = w.treasury.total) ∧
    (∀ a amount, w.treasury.excess a amount = 0 ↔
      (w.treasury.balanceOf a).units + amount.units < amountBound) := by
  intro w' attempts
  by_cases deposits : ∃ source amount, op = .deposit source amount
  · obtain ⟨source, amount, rfl⟩ := deposits
    have idle : attempts = [] :=
      (Transition.of_apply Treasury.dispatcher w.ledger w.treasury now _).attempts_of_confirmation?
        rfl
    refine ⟨?_, fun other => absurd rfl (other source amount), fun a ha => ?_,
      fun _ _ => Treasury.excess_eq_zero_iff⟩
    · rintro _ _ ⟨⟩
      exact Treasury.total_deposit ..
    · rw [idle] at ha
      cases ha
  · have other : ∀ source amount, op ≠ .deposit source amount :=
      fun source amount e => deposits ⟨source, amount, e⟩
    refine ⟨fun source amount e => absurd e (other source amount), fun _ internal => ?_,
      fun a ha succeeded outward => ?_, fun _ _ => Treasury.excess_eq_zero_iff⟩
    · rcases apply_pays other with ⟨_, _, kept⟩ | ⟨call, tried, _, _, moved⟩
      · exact kept
      · have tried : attempts = [⟨w.address, call, .ok ()⟩] := tried
        have own : call.destination = w.address :=
          internal ⟨w.address, call, .ok ()⟩ (by simp [tried]) rfl
        rwa [own, Treasury.transfer_self] at moved
    · rcases apply_pays other with ⟨failed, _⟩ | ⟨call, tried, told, covered, moved⟩
      · rw [failed a ha] at succeeded
        cases succeeded
      · have tried : attempts = [⟨w.address, call, .ok ()⟩] := tried
        rw [tried, List.mem_singleton] at ha
        subst ha
        have same : w'.address = w.address := told.address_eq
        rw [balance, same, Treasury.balanceOf_congr moved, Treasury.balanceOf_congr moved,
          Treasury.total_congr moved]
        exact ⟨Treasury.paid_transfer outward covered, Treasury.credited_transfer outward,
          Treasury.total_transfer outward covered⟩

/-! ### A loss -/

/-- The greatest amount. -/
def fortune : Amount := ⟨amountBound - 1, by decide⟩

/-- A wallet of a single owner after a deposit of the greatest amount. -/
def brimful : Wallet :=
  (create (.sole .zero)).run
    [(.epoch, .operate (.deposit .zero fortune))]

/-- One unit more is accepted, and is lost. -/
theorem brimful_loses_deposit :
    let out := brimful.apply .epoch (.deposit .zero ⟨1, by decide⟩)
    out.1 = .ok .recorded ∧ out.2.treasury.total = brimful.treasury.total := by
  intro out
  have full : (brimful.treasury.balanceOf brimful.address).units = amountBound - 1 := by
    refine (Treasury.units_balanceOf_deposit (t := .empty) (a := brimful.address)
      (x := brimful.address)).trans ?_
    rw [if_pos rfl]
    decide
  have sum : out.2.treasury.total + brimful.treasury.excess brimful.address ⟨1, by decide⟩
      = brimful.treasury.total + 1 := Treasury.total_deposit ..
  have lost : brimful.treasury.excess brimful.address ⟨1, by decide⟩ = 1 := by
    rw [Treasury.excess, full]
    exact Nat.add_sub_cancel_left ..
  exact ⟨rfl, by omega⟩

end Quorum.Wallet
