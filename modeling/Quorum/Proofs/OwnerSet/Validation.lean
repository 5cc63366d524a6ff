import Mathlib.Data.List.Nodup
import Quorum.Proofs.Ledger.Json

/-!
# Which owners make up an owner set

Some owners and a threshold make up an owner set exactly if there is an owner, none of them is
repeated, and the threshold is at least one and at most their number. Repeated owners are found next
to each other among the sorted ones, and the first that is found is the least.
-/

namespace Quorum

variable {as : List Address} {a : Address}

/-! ### Repeated addresses -/

/-- The least of the addresses that occur more than once. -/
def LeastRepeated (as : List Address) (a : Address) : Prop :=
  1 < as.count a ∧ ∀ b, 1 < as.count b → ¬ b < a

lemma LeastRepeated.unique {b : Address} (h : LeastRepeated as a) (h' : LeastRepeated as b) :
    a = b := by
  by_contra ne
  exact h.2 b h'.1 (Address.lt_of_not_lt_of_ne (h'.2 a h.1) ne)

lemma LeastRepeated.perm {bs : List Address} (order : as.Perm bs) :
    LeastRepeated as a ↔ LeastRepeated bs a := by
  simp only [LeastRepeated, order.count_eq]

lemma not_leastRepeated_of_nodup (distinct : as.Nodup) : ¬ LeastRepeated as a := by
  rintro ⟨twice, _⟩
  have once := List.nodup_iff_count_le_one.mp distinct a
  omega

/-- Of sorted addresses the first that is followed by itself is the least repeated one. -/
lemma leastRepeated_of_repeated? (sorted : as.Pairwise fun a b => ¬ b < a)
    (found : repeated? as = some a) : LeastRepeated as a := by
  induction as with
  | nil => cases found
  | cons first rest ih =>
    obtain ⟨least, sorted⟩ := List.pairwise_cons.mp sorted
    cases rest with
    | nil => cases found
    | cons next rest =>
      rw [repeated?] at found
      split at found
      · rename_i same
        obtain rfl := Option.some.inj found
        refine ⟨by simp [same], fun b twice before => ?_⟩
        have mem : b ∈ first :: next :: rest := List.count_pos_iff.mp (by omega)
        rcases List.mem_cons.mp mem with rfl | mem
        · exact Address.lt_irrefl _ before
        · exact least b mem before
      · rename_i ne
        obtain ⟨twice, minimal⟩ := ih sorted found
        -- the first address is less than all others, so that it is not repeated
        have fresh : first ∉ next :: rest := by
          intro mem
          have before := Address.lt_of_not_lt_of_ne (least next List.mem_cons_self) (Ne.symm ne)
          rcases List.mem_cons.mp mem with same | mem
          · exact ne same
          · exact (List.pairwise_cons.mp sorted).1 first mem before
        refine ⟨Nat.lt_of_lt_of_le twice List.count_le_count_cons, fun b twice' => minimal b ?_⟩
        by_cases same : first = b
        · subst same
          rw [List.count_cons_self, List.count_eq_zero_of_not_mem fresh] at twice'
          omega
        · rwa [List.count_cons_of_ne same] at twice'

lemma repeated?_sortAddresses_eq_some_iff :
    repeated? (sortAddresses as) = some a ↔ LeastRepeated as a := by
  have least {b : Address} (found : repeated? (sortAddresses as) = some b) : LeastRepeated as b :=
    (LeastRepeated.perm (sortAddresses_perm as)).mp
      (leastRepeated_of_repeated? (pairwise_sortAddresses as) found)
  refine ⟨least, fun repeated => ?_⟩
  cases found : repeated? (sortAddresses as) with
  | none => exact absurd repeated (not_leastRepeated_of_nodup (nodup_of_repeated? found))
  | some b => rw [(least found).unique repeated]

namespace OwnerSet

variable {owners : List Address} {required : UInt64} {set : OwnerSet} {e : Error}

/-! ### Creation -/

/-- Owners and a threshold that make up an owner set. -/
structure Fits (owners : List Address) (required : UInt64) : Prop where
  owned : owners ≠ []
  distinct : owners.Nodup
  least : 1 ≤ required.toNat
  most : required.toNat ≤ owners.length

/-- What is said about owners and a threshold that make up no owner set. -/
inductive Refused (owners : List Address) (required : UInt64) : Error → Prop
  | noOwners (none : owners = []) : Refused owners required .noOwners
  | thresholdZero (owned : owners ≠ []) (zero : required.toNat = 0) :
      Refused owners required .thresholdZero
  | thresholdTooHigh (owned : owners ≠ []) (high : owners.length < required.toNat) :
      Refused owners required (.thresholdTooHigh required.toNat owners.length)
  | duplicateOwner {a : Address} (owned : owners ≠ []) (least : 1 ≤ required.toNat)
      (most : required.toNat ≤ owners.length) (repeated : LeastRepeated owners a) :
      Refused owners required (.duplicateOwner a)

lemma create_eq_ok_iff :
    create owners required = .ok set ↔
      Fits owners required ∧ set.owners = owners ∧ set.required = required := by
  constructor
  · intro made
    unfold create at made
    split at made
    · cases made
    · rename_i owned
      split at made
      · rename_i pos
        split at made
        · rename_i le
          split at made
          · cases made
          · rename_i none
            cases made
            exact ⟨⟨owned, nodup_of_repeated? none, pos, le⟩, rfl, rfl⟩
        · cases made
      · cases made
  · rintro ⟨_, rfl, rfl⟩
    exact set.create_eq_ok

lemma refused_of_create (failed : create owners required = .error e) :
    Refused owners required e := by
  unfold create at failed
  split at failed
  · rename_i none
    cases failed
    exact .noOwners none
  · rename_i owned
    split at failed
    · rename_i pos
      split at failed
      · rename_i le
        split at failed
        · rename_i a repeated
          cases failed
          exact .duplicateOwner owned pos le (repeated?_sortAddresses_eq_some_iff.mp repeated)
        · cases failed
      · rename_i high
        cases failed
        exact .thresholdTooHigh owned (by omega)
    · rename_i zero
      cases failed
      exact .thresholdZero owned (by omega)

/-- What is said is just what is wrong. -/
lemma create_eq_error_iff : create owners required = .error e ↔ Refused owners required e := by
  refine ⟨refused_of_create, fun refused => ?_⟩
  cases refused with
  | noOwners none => rw [create, if_pos none]
  | thresholdZero owned zero => rw [create, if_neg owned, dif_neg (by omega)]
  | thresholdTooHigh owned high =>
    rw [create, if_neg owned, dif_pos (by omega), dif_neg (by omega)]
  | duplicateOwner owned least most repeated =>
    rw [create, if_neg owned, dif_pos (Nat.lt_of_succ_le least), dif_pos most]
    have found := repeated?_sortAddresses_eq_some_iff.mpr repeated
    split
    · rename_i found'
      rw [Option.some.inj (found.symm.trans found')]
    · rename_i none
      rw [none] at found
      cases found

end OwnerSet

end Quorum
