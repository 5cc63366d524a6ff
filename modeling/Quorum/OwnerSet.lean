import Quorum.Address
import Quorum.Crypto.Sha256

/-!
# Owner sets

The owners of a wallet and the number of them that has to confirm a transaction. Both are fixed
when the wallet is made and determine its address, whatever the order in which the owners are named.
-/

namespace Quorum

/-! ### Sorted addresses -/

/-- Addresses in increasing order, repeated ones included. -/
def sortAddresses (as : List Address) : List Address :=
  as.mergeSort fun a b => !decide (b < a)

/-- The first address that is followed by itself. -/
def repeated? : List Address → Option Address
  | a :: b :: rest => if a = b then some a else repeated? (b :: rest)
  | _ => none

theorem sortAddresses_perm (as : List Address) : (sortAddresses as).Perm as :=
  List.mergeSort_perm as _

theorem pairwise_sortAddresses (as : List Address) :
    (sortAddresses as).Pairwise fun a b => ¬ b < a := by
  have h := @List.pairwise_mergeSort Address (fun a b => !decide (b < a))
    (fun a b c hab hbc => by
      simp only [Bool.not_eq_eq_eq_not, Bool.not_true, decide_eq_false_iff_not] at hab hbc ⊢
      intro hca
      by_cases e : a = b
      · exact hbc (e ▸ hca)
      · exact hbc (Address.lt_trans hca (Address.lt_of_not_lt_of_ne hab (Ne.symm e))))
    (fun a b => by
      by_cases hb : b < a
      · simp [hb, Address.lt_asymm hb]
      · simp [hb]) as
  exact h.imp fun h => by simpa using h

/-- A sorted list in which no address follows itself is strictly increasing. -/
theorem pairwise_lt_of_repeated? {as : List Address} (sorted : as.Pairwise fun a b => ¬ b < a)
    (h : repeated? as = none) : as.Pairwise (· < ·) := by
  induction as with
  | nil => exact .nil
  | cons a as ih =>
    cases as with
    | nil => simp
    | cons b rest =>
      have ⟨ha, hrest⟩ := List.pairwise_cons.1 sorted
      simp only [repeated?] at h
      split at h
      · simp at h
      · rename_i ne
        have inc := ih hrest h
        have lt : a < b := Address.lt_of_not_lt_of_ne (ha b (List.mem_cons_self ..)) (Ne.symm ne)
        refine List.pairwise_cons.2 ⟨fun x hx => ?_, inc⟩
        rcases List.mem_cons.1 hx with rfl | hx
        · exact lt
        · exact Address.lt_trans lt ((List.pairwise_cons.1 inc).1 x hx)

theorem nodup_of_repeated? {as : List Address} (h : repeated? (sortAddresses as) = none) :
    as.Nodup :=
  (sortAddresses_perm as).nodup_iff.1
    ((pairwise_lt_of_repeated? (pairwise_sortAddresses as) h).imp fun h => Address.ne_of_lt h)

/-! ### Owner sets -/

/-- Distinct owners, in the order in which they were named, and the confirmations required. -/
structure OwnerSet where
  owners : List Address
  required : UInt64
  nodup : owners.Nodup
  required_pos : 0 < required.toNat
  required_le : required.toNat ≤ owners.length
deriving DecidableEq

namespace OwnerSet

/-- Why owners and a threshold make up no owner set. -/
inductive Error where
  | noOwners
  | thresholdZero
  | thresholdTooHigh (required owners : Nat)
  | duplicateOwner (owner : Address)
deriving DecidableEq

/-- What is wrong with a threshold. -/
def Error.thresholdMessage (required owners : Nat) : String :=
  s!"required confirmations {required} exceeds owner count {owners}"

def Error.message : Error → String
  | .noOwners => "Owner set must not be empty"
  | .thresholdZero => "Invalid threshold: required confirmations must be at least 1"
  | .thresholdTooHigh required owners =>
    "Invalid threshold: " ++ thresholdMessage required owners
  | .duplicateOwner owner => s!"Duplicate owner: {owner}"

/-- The error with its kind and fields. -/
def Error.dump : Error → String
  | .noOwners => "NoOwners"
  | .thresholdZero => "InvalidThreshold(\"required confirmations must be at least 1\")"
  | .thresholdTooHigh required owners =>
    "InvalidThreshold(\"" ++ thresholdMessage required owners ++ "\")"
  | .duplicateOwner owner => "DuplicateOwner(" ++ owner.dump ++ ")"

/-- The owner set of some owners and a threshold. Of several faults the first one named by
`Error` is reported, and of several repeated owners the least. -/
def create (owners : List Address) (required : UInt64) : Except Error OwnerSet :=
  if owners = [] then .error .noOwners
  else if pos : 0 < required.toNat then
    if le : required.toNat ≤ owners.length then
      match h : repeated? (sortAddresses owners) with
      | some owner => .error (.duplicateOwner owner)
      | none => .ok ⟨owners, required, nodup_of_repeated? h, pos, le⟩
    else .error (.thresholdTooHigh required.toNat owners.length)
  else .error .thresholdZero

/-- The owner set of a single owner. -/
def sole (owner : Address) : OwnerSet where
  owners := [owner]
  required := 1
  nodup := by simp
  required_pos := by decide
  required_le := by simp

def contains (s : OwnerSet) (a : Address) : Bool :=
  decide (a ∈ s.owners)

/-- The number of owners. -/
def size (s : OwnerSet) : Nat := s.owners.length

/-- The number of confirmations that a transaction needs. -/
def threshold (s : OwnerSet) : Nat := s.required.toNat

/-- The policy in words, such as `2-of-3`. -/
def description (s : OwnerSet) : String :=
  let required := s.threshold
  let owners := s.size
  s!"{required}-of-{owners}"

/-- The word that opens the preimage of a wallet address. -/
def addressMark : List UInt8 :=
  [0x6d, 0x75, 0x6c, 0x74, 0x69, 0x73, 0x69, 0x67]

/-- The bytes hashed for the wallet address: a mark, the threshold in eight bytes, and the owners in
increasing order. -/
def preimage (s : OwnerSet) : List UInt8 :=
  addressMark ++ Sha256.bigEndian 8 s.threshold ++ (sortAddresses s.owners).flatMap (·.bytes)

/-- The address of the wallet that the owners control. -/
def walletAddress (s : OwnerSet) : Address :=
  .ofDigest (Sha256.digest s.preimage) (Sha256.length_digest _)

@[simp] theorem contains_iff {s : OwnerSet} {a : Address} : s.contains a = true ↔ a ∈ s.owners := by
  simp [contains]

end OwnerSet

end Quorum
