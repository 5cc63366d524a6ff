import Mathlib.Algebra.Order.BigOperators.Group.List
import Mathlib.Algebra.Order.Group.Nat
import Quorum.Proofs.Ledger.Tally
import Quorum.Proofs.Wallet.Accounting
import Quorum.Proofs.Wallet.RoundTrip

/-!
# The order of confirmations

In a wallet without code that can pay for all of its pending transactions, no call fails, and this
lasts while confirmations are made: whatever is executed takes as much from what is due as from the
funds. Which transactions requests to confirm execute, and where the funds go, then depends on the
requests alone and not on their order. Single confirmations do not commute, since one that comes
after the execution is refused; so each order is compared with what the requests add up to.
-/

namespace Quorum

open Time (Instant)

/-- What the call of a transaction would still cost. -/
def Transaction.due (t : Transaction) : Nat :=
  if t.executed then 0 else t.call.value.units

namespace Ledger

variable {σ : Type} {d : Dispatcher σ} {l l' : Ledger} {st : σ} {now : Instant}
  {caller : Address} {index : Nat} {t : Transaction} {attempts : List CallAttempt}

/-! ### Dues -/

/-- The sum of the values of all pending transactions. -/
def dues (l : Ledger) : Nat :=
  (l.pending.map (·.call.value.units)).sum

lemma dues_eq_sum (l : Ledger) : l.dues = (l.transactions.map (·.due)).sum := by
  unfold dues pending
  induction l.transactions with
  | nil => rfl
  | cons t ts ih =>
    rw [List.map_cons, List.sum_cons, ← ih, List.filter_cons, Transaction.due]
    cases t.executed <;> simp

lemma dues_record (event : Event) : (l.record now event).dues = l.dues := rfl

lemma dues_replace (t' : Transaction) (found : l.transactions[index]? = some t) :
    (l.replace index t').dues + t.due = l.dues + t'.due := by
  rw [dues_eq_sum, dues_eq_sum]
  exact sum_map_set (·.due) found

lemma value_le_dues (found : l.transactions[index]? = some t) (unexecuted : t.executed = false) :
    t.call.value.units ≤ l.dues := by
  have pends : t ∈ l.pending := mem_pending_iff.mpr ⟨List.mem_of_getElem? found, unexecuted⟩
  exact List.le_sum_of_mem (List.mem_map_of_mem pends)

/-- A confirmation by itself leaves what is due. -/
lemma Confirms.dues_eq {c : Confirmation} {reply : Bool → Reply}
    (h : Confirms l now (.confirm caller index) c reply) : c.ledger.dues = l.dues := by
  cases h with
  | @confirm _ _ t _ found =>
    have changed := dues_replace (t.confirm caller) found
    rw [withConfirmation, dues_record]
    exact Nat.add_right_cancel changed

/-- What is executed is no longer due. -/
lemma Transition.dues_eq {out : Outcome σ Reply}
    (h : Transition d l st now (.confirm caller index) out attempts) :
    out.ledger.dues + ((attempts.filter (·.succeeded)).map (·.call.value.units)).sum = l.dues := by
  cases h with
  | refuses => simp
  | @confirms _ c _ _ _ recorded settled =>
    rw [← recorded.dues_eq, Outcome.map_ledger]
    cases settled with
    | waits => simp
    | executes =>
      have changed := dues_replace (c.transaction.markExecuted now) recorded.getElem?_index
      simpa [dues_record, Transaction.due, recorded.unexecuted, List.filter_cons] using changed
    | @fails _ e =>
      have changed := dues_replace (c.transaction.recordFailure e.message) recorded.getElem?_index
      simpa [dues_record] using Nat.add_right_cancel changed

/-- A call that is due does not fail where the funds cover all dues and no code is in the way. -/
lemma Transition.succeeded_of_covered {treasury : Treasury} {out : Outcome Treasury Reply}
    (h : Transition Treasury.dispatcher l treasury now (.confirm caller index) out attempts)
    (codeless : treasury.targets = .empty)
    (covered : l.dues ≤ (treasury.balanceOf l.address).units) :
    ∀ a ∈ attempts, a.succeeded = true := by
  cases h with
  | refuses => simp
  | @confirms _ c _ _ _ recorded settled =>
    cases settled with
    | waits => simp
    | executes => simp
    | fails _ answer =>
      rw [recorded.address_eq] at answer
      cases recorded with
      | confirm _ found unexecuted =>
        have enough := Nat.le_trans (value_le_dues found unexecuted) covered
        have done := Treasury.dispatch_of_codeless codeless enough
        cases done.symm.trans answer

/-! ### What calls and flags determine -/

/-- The call of each transaction, and whether it is executed. -/
def settlements (l : Ledger) : List (Call × Bool) :=
  l.transactions.map fun t => (t.call, t.executed)

lemma map_executed (l : Ledger) : l.transactions.map (·.executed) = l.settlements.map (·.2) := by
  rw [settlements, List.map_map]
  rfl

lemma paidTo_congr (h : l'.settlements = l.settlements) (x : Address) :
    l'.paidTo x = l.paidTo x := by
  have told (l : Ledger) : l.paidTo x = (l.settlements.map fun s =>
      if s.2 ∧ s.1.destination = x then s.1.value.units else 0).sum := by
    rw [paidTo_eq_sum, settlements, List.map_map]
    rfl
  rw [told, told, h]

lemma dues_congr (h : l'.settlements = l.settlements) : l'.dues = l.dues := by
  have told (l : Ledger) : l.dues
      = (l.settlements.map fun s => if s.2 then 0 else s.1.value.units).sum := by
    rw [dues_eq_sum, settlements, List.map_map]
    rfl
  rw [told, told, h]

/-- Ledgers that requests lead to from the same one have the same settlements if the requests are
the same. -/
lemma Tallies.settlements_eq {l₁ l₂ : Ledger} {asked asked' : List (Address × Nat)}
    (first : l.Tallies asked l₁) (second : l.Tallies asked' l₂) (grown : l.GrowsInto l₁)
    (grown' : l.GrowsInto l₂) (same : ∀ r, r ∈ asked ↔ r ∈ asked') :
    l₁.settlements = l₂.settlements := by
  refine List.ext_getElem? fun j => ?_
  rw [settlements, settlements, List.getElem?_map, List.getElem?_map]
  by_cases inside : j < l.transactions.length
  · have found := List.getElem?_eq_getElem inside
    obtain ⟨t₁, found₁, persists₁⟩ := grown.transactions j _ found
    obtain ⟨t₂, found₂, persists₂⟩ := grown'.transactions j _ found
    have executed : t₁.executed = t₂.executed := by
      rw [← isExecuted_of_getElem? found₁, ← isExecuted_of_getElem? found₂,
        Bool.eq_iff_iff, (first.at_index j inside).executed, (second.at_index j inside).executed,
        carries_congr fun a => same (a, j)]
    rw [found₁, found₂, Option.map_some, Option.map_some, persists₁.call_eq, persists₂.call_eq,
      executed]
  · rw [List.getElem?_eq_none (by rw [first.length_eq]; omega),
      List.getElem?_eq_none (by rw [second.length_eq]; omega)]

end Ledger

namespace Wallet

open Ledger (Transition)

variable {w w' w'' : Wallet} {now : Instant} {caller : Address} {index : Nat}

/-! ### Funds -/

/-- A wallet that can pay for all that is due, and a later state of it in which every call that was
executed is paid for: the destination has what was paid to it, and what is no longer due is gone
from the funds of the wallet, unless it was paid to the wallet itself. -/
structure PaysInto (w w' : Wallet) : Prop where
  address_eq : w'.address = w.address
  codeless : w'.treasury.targets = .empty
  covered : w'.ledger.dues ≤ w'.balance.units
  others : ∀ x, x ≠ w.address → ∃ more, w'.ledger.paidTo x = w.ledger.paidTo x + more ∧
    (w'.treasury.balanceOf x).units
      = min (amountBound - 1) ((w.treasury.balanceOf x).units + more)
  own : w'.balance.units + w.ledger.dues + w.ledger.paidTo w.address
    = w.balance.units + w'.ledger.dues + w'.ledger.paidTo w.address

lemma PaysInto.refl (codeless : w.treasury.targets = .empty)
    (covered : w.ledger.dues ≤ w.balance.units) : w.PaysInto w where
  address_eq := rfl
  codeless := codeless
  covered := covered
  others x _ := by
    have := w.treasury.units_balanceOf_le x
    exact ⟨0, rfl, by omega⟩
  own := rfl

/-- An operation that pays for no call keeps all as it was. -/
lemma PaysInto.rests (h : w.PaysInto w') (codeless : w''.treasury.targets = .empty)
    (dues_eq : w''.ledger.dues = w'.ledger.dues) (told : w'.ledger.Pays w''.ledger none)
    (kept : w''.treasury.balances = w'.treasury.balances) : w.PaysInto w'' := by
  have same : w''.address = w'.address := told.address_eq
  have paidTo_eq : ∀ x, w''.ledger.paidTo x = w'.ledger.paidTo x := told.paidTo_eq
  have balance_eq : w''.balance = w'.balance := by
    rw [balance, same, Treasury.balanceOf_congr kept, balance]
  refine ⟨same.trans h.address_eq, codeless, ?_, fun x hx => ?_, ?_⟩
  · rw [dues_eq, balance_eq]
    exact h.covered
  · rw [paidTo_eq, Treasury.balanceOf_congr kept]
    exact h.others x hx
  · rw [dues_eq, paidTo_eq, balance_eq]
    exact h.own

/-- An operation that executes a call takes its value from what is due and moves it. -/
lemma PaysInto.pays {call : Call} (h : w.PaysInto w') (codeless : w''.treasury.targets = .empty)
    (dues_eq : w''.ledger.dues + call.value.units = w'.ledger.dues)
    (told : w'.ledger.Pays w''.ledger (some call))
    (moved : w''.treasury.balances
      = (w'.treasury.transfer w'.address call.destination call.value).balances) :
    w.PaysInto w'' := by
  have same : w''.address = w'.address := told.address_eq
  have paidTo_eq (x : Address) : w''.ledger.paidTo x = w'.ledger.paidTo x
      + if call.destination = x then call.value.units else 0 := told.paidTo_eq x
  have left : w''.balance.units
      = w'.balance.units - if call.destination = w'.address then 0 else call.value.units := by
    rw [balance, same, Treasury.balanceOf_congr moved, Treasury.units_balanceOf_transfer_source,
      balance]
  have covered := h.covered
  refine ⟨same.trans h.address_eq, codeless, ?_, fun x hx => ?_, ?_⟩
  · rw [left]
    split <;> omega
  · obtain ⟨more, paid, received⟩ := h.others x hx
    have elsewhere : x ≠ w'.address := by rwa [h.address_eq]
    refine ⟨more + if call.destination = x then call.value.units else 0, ?_, ?_⟩
    · rw [paidTo_eq, paid, Nat.add_assoc]
    · rw [Treasury.balanceOf_congr moved, Treasury.units_balanceOf_transfer_of_ne elsewhere, received]
      omega
  · have own := h.own
    rw [paidTo_eq, left, h.address_eq]
    split <;> omega

/-- One more confirmation, which fails for no lack of funds and for no code. -/
lemma PaysInto.confirm (h : w.PaysInto w') :
    w.PaysInto (w'.apply now (.confirm caller index)).2 := by
  have transition := Transition.of_apply Treasury.dispatcher w'.ledger w'.treasury now
    (.confirm caller index)
  have codeless : (w'.apply now (.confirm caller index)).2.treasury.targets = .empty :=
    transition.keeps (p := fun t => t.targets = .empty)
      (fun t codeless source call => (t.targets_dispatch source call).trans codeless) h.codeless
  have dues_eq := transition.dues_eq
  rw [← ledger_apply] at dues_eq
  rcases @apply_pays w' now (.confirm caller index) (by simp) with
    ⟨failed, told, kept⟩ | ⟨call, tried, told, _, moved⟩
  · rw [List.filter_eq_nil_iff.mpr (by simpa using failed)] at dues_eq
    exact h.rests codeless dues_eq told kept
  · rw [tried] at dues_eq
    exact h.pays codeless (by simpa [List.filter_cons] using dues_eq) told moved

/-! ### Requests to confirm -/

/-- The wallet after requests to confirm, each at its time. -/
def confirmAll (w : Wallet) (asked : List (Instant × Address × Nat)) : Wallet :=
  w.run (asked.map fun (now, caller, index) => (now, .operate (.confirm caller index)))

/-- Requests lead to what they add up to, and to what the executed calls pay. -/
lemma tallies_confirmAll {before : List (Address × Nat)}
    (tallies : w.ledger.Tallies before w'.ledger) (pays : w.PaysInto w')
    (asked : List (Instant × Address × Nat)) :
    w.ledger.Tallies (before ++ asked.map (·.2)) (w'.confirmAll asked).ledger ∧
      w.PaysInto (w'.confirmAll asked) := by
  -- the tallies need that no call fails, for which the funds must still cover what is due
  induction asked generalizing before w' with
  | nil => simpa [confirmAll, run] using ⟨tallies, pays⟩
  | cons request asked ih =>
    obtain ⟨now, caller, index⟩ := request
    have transition := Transition.of_apply Treasury.dispatcher w'.ledger w'.treasury now
      (.confirm caller index)
    have carried := transition.succeeded_of_covered pays.codeless pays.covered
    have next := tallies.confirm transition carried
    rw [← ledger_apply] at next
    have := ih next pays.confirm
    rwa [List.append_assoc] at this

lemma growsInto_confirmAll (asked : List (Instant × Address × Nat)) :
    w.ledger.GrowsInto (w.confirmAll asked).ledger :=
  Invariant.wallet_run (Ledger.invariant_growsInto w.ledger) (.refl _) _

/-- The settlements determine the balances. -/
lemma balanceOf_eq {w₁ w₂ : Wallet} (first : w.PaysInto w₁) (second : w.PaysInto w₂)
    (same : w₁.ledger.settlements = w₂.ledger.settlements) (x : Address) :
    w₁.treasury.balanceOf x = w₂.treasury.balanceOf x := by
  have paidTo_eq := Ledger.paidTo_congr same x
  refine Amount.ext ?_
  by_cases hx : x = w.address
  · subst hx
    have own₁ := first.own
    have own₂ := second.own
    rw [balance, first.address_eq] at own₁
    rw [balance, second.address_eq, ← Ledger.dues_congr same] at own₂
    omega
  · obtain ⟨more₁, paid₁, received₁⟩ := first.others x hx
    obtain ⟨more₂, paid₂, received₂⟩ := second.others x hx
    have more_eq : more₁ = more₂ := by omega
    rw [received₁, received₂, more_eq]

/-- In a wallet without code whose funds cover all pending transactions, requests to confirm, made
in any two orders and at any times, execute the same transactions and leave every address with the
same funds. A transaction is executed after them if it was before, or if among those who ask for it
there is an owner who did not confirm it, and the owners who confirmed it and those who ask for it
are enough together. -/
theorem order_irrelevant (reachable : Reachable w) (codeless : w.treasury.targets = .empty)
    (covered : w.ledger.dues ≤ w.balance.units) {asked asked' : List (Instant × Address × Nat)}
    (reordered : (asked.map (·.2)).Perm (asked'.map (·.2))) :
    (w.confirmAll asked).ledger.transactions.map (·.executed)
      = (w.confirmAll asked').ledger.transactions.map (·.executed) ∧
    (∀ x, (w.confirmAll asked).treasury.balanceOf x
      = (w.confirmAll asked').treasury.balanceOf x) ∧
    (∀ j t, w.ledger.transactions[j]? = some t →
      ∃ t', (w.confirmAll asked).ledger.transactions[j]? = some t' ∧
        (t'.executed ↔ t.executed ∨
          (∃ a ∈ w.ledger.owners.owners, a ∉ t.confirmations ∧ (a, j) ∈ asked.map (·.2)) ∧
          w.ledger.required ≤ (w.ledger.owners.owners.filter fun a =>
            a ∈ t.confirmations ∨ (a, j) ∈ asked.map (·.2)).length)) := by
  have start := reachable.sound.1.tallies_nil
  obtain ⟨tallies, pays⟩ := tallies_confirmAll start (.refl codeless covered) asked
  obtain ⟨tallies', pays'⟩ := tallies_confirmAll start (.refl codeless covered) asked'
  rw [List.nil_append] at tallies tallies'
  have grown : w.ledger.GrowsInto (w.confirmAll asked).ledger := growsInto_confirmAll asked
  have settled : (w.confirmAll asked).ledger.settlements
      = (w.confirmAll asked').ledger.settlements :=
    tallies.settlements_eq tallies' grown (growsInto_confirmAll asked') fun _ => reordered.mem_iff
  refine ⟨?_, balanceOf_eq pays pays' settled, fun j t found => ?_⟩
  · rw [Ledger.map_executed, settled, Ledger.map_executed]
  · obtain ⟨t', found', _⟩ := grown.transactions j t found
    have inside : j < w.ledger.transactions.length := (List.getElem?_eq_some_iff.mp found).1
    refine ⟨t', found', ?_⟩
    rw [← Ledger.isExecuted_of_getElem? found', ← Ledger.isExecuted_of_getElem? found,
      (tallies.at_index j inside).executed, Ledger.carries_iff_of_getElem? found]

/-- A wallet of two owners after a deposit and two proposals, which it can just pay for. -/
def pressed : Wallet :=
  (create Ledger.couple).run
    [(.epoch, .operate (.deposit .zero ⟨30, by decide⟩)),
      (.epoch, .operate (.submit .zero ⟨.zero, ⟨10, by decide⟩, []⟩)),
      (.epoch, .operate (.submit .zero ⟨.zero, ⟨20, by decide⟩, []⟩))]

/-- The other owner confirms the first proposal, twice, and the second one, or does so backwards. -/
theorem pressed_executes_both :
    let asked := [(.epoch, Ledger.partner, 0), (.epoch, Ledger.partner, 0),
      (.epoch, Ledger.partner, 1)]
    Reachable pressed ∧ pressed.treasury.targets = .empty ∧
    pressed.ledger.dues ≤ pressed.balance.units ∧
    ∀ requests ∈ [asked, asked.reverse], ∀ j < 2, ∃ t,
      (pressed.confirmAll requests).ledger.transactions[j]? = some t ∧ t.executed := by
  intro asked
  have reachable : Reachable pressed := (Reachable.created Ledger.couple).run _
  have balance_eq : pressed.balance.units = 30 := by
    refine (Treasury.units_balanceOf_deposit (t := .empty) (a := pressed.address)
      (x := pressed.address)).trans ?_
    rw [if_pos rfl]
    decide
  have covered : pressed.ledger.dues ≤ pressed.balance.units := by
    rw [balance_eq]
    decide
  have reordered : (asked.map (·.2)).Perm (asked.reverse.map (·.2)) :=
    (List.reverse_perm asked).symm.map _
  obtain ⟨_, _, forwards⟩ := order_irrelevant reachable rfl covered reordered
  obtain ⟨_, _, backwards⟩ := order_irrelevant reachable rfl covered reordered.symm
  refine ⟨reachable, rfl, covered, fun requests either j inside => ?_⟩
  rcases List.mem_pair.mp either with rfl | rfl
  · match j, inside with
    | 0, _ =>
      obtain ⟨t, found, executed⟩ := forwards 0 _ rfl
      exact ⟨t, found, executed.mpr (by decide)⟩
    | 1, _ =>
      obtain ⟨t, found, executed⟩ := forwards 1 _ rfl
      exact ⟨t, found, executed.mpr (by decide)⟩
  · match j, inside with
    | 0, _ =>
      obtain ⟨t, found, executed⟩ := backwards 0 _ rfl
      exact ⟨t, found, executed.mpr (by decide)⟩
    | 1, _ =>
      obtain ⟨t, found, executed⟩ := backwards 1 _ rfl
      exact ⟨t, found, executed.mpr (by decide)⟩

end Wallet

end Quorum
