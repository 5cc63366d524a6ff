import Mathlib.Algebra.GroupWithZero.Nat
import Mathlib.Tactic.Lemma
import Quorum.Treasury

/-!
# Balances

What deposits, transfers and calls do to each balance and to the sum of all balances. A credit stops
at the greatest amount; what goes beyond it is the excess, and nothing else is ever lost.
-/

namespace Quorum

namespace AddressMap

variable {α : Type} {a : Address} {es : List (Address × α)}

lemma find?_eq_none_of_lt (h : ∀ e ∈ es, a < e.1) : find? a es = none := by
  induction es with
  | nil => rfl
  | cons e es ih =>
    obtain ⟨first, rest⟩ := List.forall_mem_cons.mp h
    rw [find?, if_neg (Address.ne_of_lt first).symm, ih rest]

/-- Putting an entry in its place adds it to a sum, from which the entry that it replaces goes. -/
lemma sum_place (f : α → Nat) (v : α) (sorted : es.Pairwise (·.1 < ·.1)) :
    ((place a v es).map (f ·.2)).sum + ((find? a es).map f).getD 0
      = (es.map (f ·.2)).sum + f v := by
  induction es with
  | nil => simp [place, find?]
  | cons e es ih =>
    obtain ⟨above, rest⟩ := List.pairwise_cons.mp sorted
    rw [place, find?]
    split
    · rename_i lt
      have absent : find? a es = none :=
        find?_eq_none_of_lt fun x hx => Address.lt_trans lt (above x hx)
      rw [if_neg (Address.ne_of_lt lt).symm, absent]
      simp only [List.map_cons, List.sum_cons, Option.map_none, Option.getD_none]
      omega
    · split
      · rename_i same
        simp only [same, if_true, List.map_cons, List.sum_cons, Option.map_some, Option.getD_some]
        omega
      · rename_i ne
        have := ih rest
        simp only [if_neg (Ne.symm ne), List.map_cons, List.sum_cons]
        omega

end AddressMap

namespace Treasury

variable {t t' : Treasury} {a x source : Address} {amount value : Amount} {call : Call}

/-- The sum of all balances. -/
def total (t : Treasury) : Nat :=
  (t.balances.entries.map (·.2.units)).sum

/-- What is lost of an amount that is credited to an address. -/
def excess (t : Treasury) (a : Address) (amount : Amount) : Nat :=
  (t.balanceOf a).units + amount.units - (amountBound - 1)

lemma units_balanceOf_le (t : Treasury) (a : Address) :
    (t.balanceOf a).units ≤ amountBound - 1 :=
  Nat.le_sub_one_of_lt (t.balanceOf a).lt_bound

/-- Nothing is lost exactly if the new balance is an amount. -/
lemma excess_eq_zero_iff :
    t.excess a amount = 0 ↔ (t.balanceOf a).units + amount.units < amountBound := by
  have : 0 < amountBound := by decide
  rw [excess]
  omega

lemma balanceOf_congr (h : t'.balances = t.balances) (x : Address) :
    t'.balanceOf x = t.balanceOf x := by
  rw [balanceOf, h, balanceOf]

lemma total_congr (h : t'.balances = t.balances) : t'.total = t.total := by
  rw [total, h, total]

/-- A transfer looks at nothing but the balances. -/
lemma balances_transfer_congr (h : t'.balances = t.balances) :
    (t'.transfer source a value).balances = (t.transfer source a value).balances := by
  unfold transfer
  split
  · simp only [deposit, balanceOf, h]
  · exact h

/-! ### One balance put in place of another -/

/-- The treasury with another balance of an address. -/
def withBalance (t : Treasury) (a : Address) (amount : Amount) : Treasury :=
  { t with balances := t.balances.insert a amount }

lemma balanceOf_withBalance :
    (t.withBalance a amount).balanceOf x = if a = x then amount else t.balanceOf x := by
  rw [withBalance, balanceOf, AddressMap.get?_insert]
  split <;> rfl

lemma total_withBalance (t : Treasury) (a : Address) (amount : Amount) :
    (t.withBalance a amount).total + (t.balanceOf a).units = t.total + amount.units := by
  have h := AddressMap.sum_place (a := a) Amount.units amount t.balances.sorted
  have old : (t.balanceOf a).units = ((t.balances.get? a).map Amount.units).getD 0 := by
    rw [balanceOf]
    cases t.balances.get? a <;> rfl
  rw [old]
  exact h

lemma deposit_eq_withBalance :
    t.deposit a amount = t.withBalance a ((t.balanceOf a).credit amount) := rfl

/-! ### Deposits -/

lemma units_balanceOf_deposit :
    ((t.deposit a amount).balanceOf x).units
      = if a = x then min ((t.balanceOf a).units + amount.units) (amountBound - 1)
        else (t.balanceOf x).units := by
  rw [balanceOf_deposit]
  split <;> rfl

/-- A deposit adds its amount, less the excess. -/
lemma total_deposit (t : Treasury) (a : Address) (amount : Amount) :
    (t.deposit a amount).total + t.excess a amount = t.total + amount.units := by
  have h := total_withBalance t a ((t.balanceOf a).credit amount)
  rw [← deposit_eq_withBalance, Amount.units_credit] at h
  have := t.units_balanceOf_le a
  rw [excess]
  omega

/-! ### Transfers -/

/-- A transfer to another address, even of nothing, takes the value from one balance and credits it
to the other. -/
lemma units_balanceOf_transfer (h : a ≠ source) (x : Address) :
    ((t.transfer source a value).balanceOf x).units
      = if x = source then (t.balanceOf source).units - value.units
        else if x = a then min ((t.balanceOf a).units + value.units) (amountBound - 1)
        else (t.balanceOf x).units := by
  have low := t.units_balanceOf_le a
  rw [transfer]
  split
  · rw [units_balanceOf_deposit, ← withBalance, balanceOf_withBalance, balanceOf_withBalance,
      if_neg (Ne.symm h)]
    by_cases hx : x = source
    · simp [hx, h]
    · by_cases ha : a = x
      · simp [hx, ha]
      · simp [hx, ha, Ne.symm hx, Ne.symm ha]
  · rename_i idle
    have zero : value.units = 0 := Nat.eq_zero_of_not_pos fun pos => idle ⟨pos, h⟩
    by_cases hx : x = source
    · simp [hx, zero]
    · by_cases ha : x = a
      · rw [if_neg hx, if_pos ha, zero, ha]
        omega
      · rw [if_neg hx, if_neg ha]

lemma transfer_self : t.transfer source source value = t := by
  rw [transfer, if_neg fun h => h.2 rfl]

/-- What another address has after a transfer: more, if it is the destination. -/
lemma units_balanceOf_transfer_of_ne (h : x ≠ source) :
    ((t.transfer source a value).balanceOf x).units
      = min (amountBound - 1) ((t.balanceOf x).units + if a = x then value.units else 0) := by
  have low := t.units_balanceOf_le x
  by_cases home : a = source
  · have elsewhere : a ≠ x := home ▸ Ne.symm h
    rw [home, transfer_self, if_neg (home ▸ elsewhere)]
    omega
  · rw [units_balanceOf_transfer home, if_neg h]
    by_cases paid : x = a
    · subst paid
      rw [if_pos rfl, if_pos rfl, Nat.min_comm]
    · rw [if_neg paid, if_neg (Ne.symm paid)]
      omega

/-- What the source has after a transfer: less, unless it is the destination. -/
lemma units_balanceOf_transfer_source :
    ((t.transfer source a value).balanceOf source).units
      = (t.balanceOf source).units - if a = source then 0 else value.units := by
  by_cases home : a = source
  · rw [home, transfer_self, if_pos rfl, Nat.sub_zero]
  · rw [units_balanceOf_transfer home, if_pos rfl, if_neg home]

/-- A transfer that the source can pay takes exactly its value. -/
lemma paid_transfer (h : a ≠ source) (covered : value.units ≤ (t.balanceOf source).units) :
    ((t.transfer source a value).balanceOf source).units + value.units
      = (t.balanceOf source).units := by
  rw [units_balanceOf_transfer h, if_pos rfl]
  exact Nat.sub_add_cancel covered

/-- A transfer gives its value, less the excess. -/
lemma credited_transfer (h : a ≠ source) :
    ((t.transfer source a value).balanceOf a).units + t.excess a value
      = (t.balanceOf a).units + value.units := by
  have low := t.units_balanceOf_le a
  rw [units_balanceOf_transfer h, if_neg h, if_pos rfl, excess]
  omega

/-- A transfer that the source can pay keeps the sum, less the excess. -/
lemma total_transfer (h : a ≠ source) (covered : value.units ≤ (t.balanceOf source).units) :
    (t.transfer source a value).total + t.excess a value = t.total := by
  have low := t.units_balanceOf_le a
  rw [transfer]
  split
  · have taken := total_withBalance t source ((t.balanceOf source).debit value)
    have given := total_deposit (t.withBalance source ((t.balanceOf source).debit value)) a value
    rw [excess, balanceOf_withBalance, if_neg (Ne.symm h)] at given
    rw [Amount.units_debit] at taken
    change ((t.withBalance source ((t.balanceOf source).debit value)).deposit a value).total + _ = _
    rw [excess]
    omega
  · rename_i idle
    have zero : value.units = 0 := Nat.eq_zero_of_not_pos fun pos => idle ⟨pos, h⟩
    rw [excess, zero]
    omega

/-! ### Calls -/

/-- A call that is carried out was covered, and leaves the balances of a transfer. -/
lemma dispatch_ok (h : t.dispatch source call = (.ok (), t')) :
    call.value.units ≤ (t.balanceOf source).units ∧
      t'.balances = (t.transfer source call.destination call.value).balances := by
  unfold dispatch at h
  simp only at h
  split at h
  · cases h
  · rename_i covered
    refine ⟨Nat.le_of_not_lt covered, ?_⟩
    have kept := balances_forward t source call
    split at h
    · cases h
    · rename_i heq
      cases h
      rw [heq] at kept
      exact balances_transfer_congr kept

/-! ### Treasuries without code -/

/-- Without code, nobody is asked before funds move. -/
lemma forward_of_codeless (codeless : t.targets = .empty) : t.forward source call = (none, t) := by
  simp [forward, codeless]

/-- Without code, a call is carried out if the funds are there. -/
lemma dispatch_of_codeless (codeless : t.targets = .empty)
    (covered : call.value.units ≤ (t.balanceOf source).units) :
    t.dispatch source call = (.ok (), t.transfer source call.destination call.value) := by
  simp only [dispatch, forward_of_codeless codeless, if_neg (Nat.not_lt.mpr covered)]

/-- Calls register no code. -/
lemma targets_dispatch (t : Treasury) (source : Address) (call : Call) :
    (t.dispatch source call).2.targets = t.targets := by
  have kept : (t.forward source call).2.targets = t.targets := by
    unfold forward
    split <;> rfl
  have moved (t : Treasury) :
      (t.transfer source call.destination call.value).targets = t.targets := by
    unfold transfer
    split <;> rfl
  unfold dispatch
  simp only
  split
  · rfl
  · split
    · rename_i asked
      rwa [asked] at kept
    · rename_i asked
      rw [asked] at kept
      rw [moved, kept]

end Treasury

end Quorum
