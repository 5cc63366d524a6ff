import Mathlib.Data.List.Perm.Basic
import Quorum.OwnerSet
import Quorum.Proofs.Crypto.BigEndian

/-!
# The policy behind an address

A policy is a threshold with some owners, whatever their order. The bytes that are hashed for the
address of a wallet have no marks between their parts, but the threshold takes eight of them and
each owner twenty, so they tell the policy.
-/

namespace Quorum

/-! ### Sorted owners -/

/-- Addresses have one increasing order. -/
lemma sortAddresses_inj {as bs : List Address} :
    sortAddresses as = sortAddresses bs ↔ as.Perm bs := by
  constructor
  · intro same
    exact (sortAddresses_perm as).symm.trans (same ▸ sortAddresses_perm bs)
  · intro order
    have sorted : (sortAddresses as).Perm (sortAddresses bs) :=
      (sortAddresses_perm as).trans (order.trans (sortAddresses_perm bs).symm)
    refine sorted.eq_of_pairwise ?_ (pairwise_sortAddresses as) (pairwise_sortAddresses bs)
    intro a b _ _ before after
    by_contra ne
    exact before (Address.lt_of_not_lt_of_ne after ne)

/-- Addresses one after the other are told apart, because each has twenty bytes. -/
lemma flatMap_bytes_inj {as bs : List Address} :
    as.flatMap (·.bytes) = bs.flatMap (·.bytes) ↔ as = bs := by
  refine ⟨fun same => ?_, fun same => same ▸ rfl⟩
  induction as generalizing bs with
  | nil =>
    cases bs with
    | nil => rfl
    | cons b bs =>
      have size := congrArg List.length same
      simp only [List.flatMap_cons, List.flatMap_nil, List.length_append, b.length_bytes,
        List.length_nil] at size
      omega
  | cons a as ih =>
    cases bs with
    | nil =>
      have size := congrArg List.length same
      simp only [List.flatMap_cons, List.flatMap_nil, List.length_append, a.length_bytes,
        List.length_nil] at size
      omega
    | cons b bs =>
      rw [List.flatMap_cons, List.flatMap_cons] at same
      obtain ⟨first, rest⟩ := List.append_inj same (a.length_bytes.trans b.length_bytes.symm)
      rw [Address.ext first, ih rest]

/-! ### Policies -/

/-- Two different messages have digests that end in the same twenty bytes. -/
def Sha256.CollideAtEnd (message message' : List UInt8) : Prop :=
  message ≠ message' ∧ (digest message).drop 12 = (digest message').drop 12

namespace OwnerSet

variable {s s' : OwnerSet}

/-- The same owners, in whatever order, with the same threshold. -/
structure SamePolicy (s s' : OwnerSet) : Prop where
  required : s.required = s'.required
  owners : s.owners.Perm s'.owners

/-- The bytes hashed for the address tell the threshold and the owners, but not their order. -/
lemma preimage_inj : s.preimage = s'.preimage ↔ s.SamePolicy s' := by
  have fits (s : OwnerSet) : s.threshold < 256 ^ 8 := s.required.toNat_lt
  constructor
  · intro same
    have size (s : OwnerSet) :
        (addressMark ++ Sha256.bigEndian 8 s.threshold).length = 16 := by
      rw [List.length_append, Sha256.length_bigEndian]
      rfl
    obtain ⟨head, tail⟩ := List.append_inj same ((size s).trans (size s').symm)
    have threshold := (Sha256.bigEndian_inj (fits s) (fits s')).mp (List.append_cancel_left head)
    exact ⟨UInt64.toNat_inj.mp threshold, sortAddresses_inj.mp (flatMap_bytes_inj.mp tail)⟩
  · rintro ⟨required, owners⟩
    rw [preimage, preimage, threshold, threshold, required, sortAddresses_inj.mpr owners]

/-- Two owner sets have the same policy, or what is hashed for them collides. -/
def TakenFor (s s' : OwnerSet) : Prop :=
  s.SamePolicy s' ∨ Sha256.CollideAtEnd s.preimage s'.preimage

/-- Two wallets share an address only if their owner sets are taken for each other. -/
lemma walletAddress_inj : s.walletAddress = s'.walletAddress ↔ s.TakenFor s' := by
  have ends : s.walletAddress = s'.walletAddress ↔
      (Sha256.digest s.preimage).drop 12 = (Sha256.digest s'.preimage).drop 12 :=
    ⟨congrArg Address.bytes, fun same => Address.ext same⟩
  rw [ends, TakenFor, Sha256.CollideAtEnd, ← preimage_inj]
  constructor
  · intro same
    by_cases bytes : s.preimage = s'.preimage
    · exact .inl bytes
    · exact .inr ⟨bytes, same⟩
  · rintro (bytes | ⟨_, same⟩)
    · rw [bytes]
    · exact same

end OwnerSet

end Quorum
