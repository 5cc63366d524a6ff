import Mathlib.Data.List.Perm.Basic
import Quorum.Proofs.Ledger.Validity

/-!
# Reads

A ledger tells the same fact in several ways: the number of confirmations is the size of a set,
while the owners who confirm are picked out of the owner set, and a transaction is found by its
position or by the index that it stores. In a valid ledger all of these agree.
-/

namespace Quorum

/-- A set that lies within a list without repetitions is what the list has of it. -/
lemma AddressSet.filter_contains_perm {as : List Address} (distinct : as.Nodup) {s : AddressSet}
    (within : ∀ a ∈ s, a ∈ as) : (as.filter s.contains).Perm s.toList := by
  refine (List.perm_ext_iff_of_nodup (distinct.filter _) s.nodup).mpr fun a => ?_
  rw [List.mem_filter, AddressSet.contains_iff, AddressSet.mem_toList]
  exact ⟨fun h => h.2, fun h => ⟨within a h, h⟩⟩

/-- The owners who confirm a transaction are as many as its confirmations. -/
lemma Transaction.Fits.length_filter {t : Transaction} {owners : OwnerSet} {position : Nat}
    (fits : t.Fits owners position) :
    (owners.owners.filter t.confirmations.contains).length = t.count :=
  (AddressSet.filter_contains_perm owners.nodup fits.confirmers).length_eq

namespace Ledger

variable {l : Ledger} {i : Nat} {t : Transaction}

lemma transaction_of_getElem? (found : l.transactions[i]? = some t) : l.transaction i = .ok t := by
  rw [transaction, found]

lemma confirmations_of_getElem? (found : l.transactions[i]? = some t) :
    l.confirmations i = .ok (l.owners.owners.filter t.confirmations.contains) := by
  rw [confirmations, transaction_of_getElem? found]
  rfl

lemma confirmations_of_length_le (outside : l.transactions.length ≤ i) :
    l.confirmations i = .error (.invalidIndex i) := by
  rw [confirmations, transaction, List.getElem?_eq_none outside]
  rfl

/-! ### Pending transactions -/

lemma mem_pending_iff : t ∈ l.pending ↔ t ∈ l.transactions ∧ t.executed = false := by
  simp [pending]

lemma Valid.map_index (valid : l.Valid) :
    l.transactions.map (·.index) = List.range l.transactions.length := by
  refine List.ext_getElem (by simp) fun i inside _ => ?_
  rw [List.getElem_map, List.getElem_range]
  rw [List.length_map] at inside
  exact (valid i _ (List.getElem?_eq_getElem inside)).index_eq

/-- The pending transactions are those whose flags are not set, in the order of their indices. -/
lemma Valid.map_index_pending (valid : l.Valid) : l.pending.map (·.index)
    = (List.range l.transactions.length).filter fun i => !l.isExecuted i := by
  have flags : ∀ t ∈ l.transactions, (!t.executed) = !l.isExecuted t.index := by
    intro t ht
    obtain ⟨i, found⟩ := List.mem_iff_getElem?.mp ht
    rw [(valid i t found).index_eq, isExecuted_of_getElem? found]
  rw [← valid.map_index, List.filter_map, pending, List.filter_congr flags]
  rfl

/-! ### Numbers -/

lemma status_pending (l : Ledger) : l.status.pending = l.pending.length := by
  have split := List.length_eq_countP_add_countP (fun t : Transaction => t.executed)
    (l := l.transactions)
  have rest : l.pending.length = l.transactions.countP fun t => !t.executed := by
    rw [pending, List.countP_eq_length_filter]
  simp only [status, rest]
  simp only [Bool.not_eq_true, Bool.decide_eq_false] at split
  omega

lemma status_pending_add_executed (l : Ledger) :
    l.status.pending + l.status.executed = l.status.transactionCount :=
  Nat.sub_add_cancel List.countP_le_length

end Ledger

end Quorum
