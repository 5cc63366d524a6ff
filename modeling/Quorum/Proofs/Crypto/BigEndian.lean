import Mathlib.Algebra.Group.Nat.Defs
import Mathlib.Tactic.Lemma
import Quorum.Crypto.Key

/-!
# Numbers as bytes

A number is read back from its bytes, the most significant first, as far as there are bytes for it.
So numbers that the bytes have room for are told by them.
-/

namespace Quorum

lemma ofBigEndian_append_singleton (bs : List UInt8) (b : UInt8) :
    ofBigEndian (bs ++ [b]) = 256 * ofBigEndian bs + b.toNat := by
  simp [ofBigEndian]

lemma Sha256.length_bigEndian (count n : Nat) : (bigEndian count n).length = count := by
  rw [bigEndian, List.length_map, List.length_range]

/-- The last byte holds the lowest bits. -/
lemma Sha256.bigEndian_succ (count n : Nat) :
    bigEndian (count + 1) n = bigEndian count (n / 256) ++ [UInt8.ofNat n] := by
  rw [bigEndian, List.range_succ, List.map_append, bigEndian]
  congr 1
  · refine List.map_congr_left fun i mem => ?_
    have low := List.mem_range.mp mem
    have exponent : count + 1 - 1 - i = (count - 1 - i) + 1 := by omega
    rw [exponent, Nat.pow_eq, Nat.pow_eq, Nat.pow_succ', Nat.div_div_eq_div_mul]
  · simp

lemma ofBigEndian_bigEndian (count n : Nat) :
    ofBigEndian (Sha256.bigEndian count n) = n % 256 ^ count := by
  induction count generalizing n with
  | zero => simp [Sha256.bigEndian, ofBigEndian, Nat.mod_one]
  | succ count ih =>
    rw [Sha256.bigEndian_succ, ofBigEndian_append_singleton, ih, Nat.pow_succ', Nat.mod_mul,
      UInt8.toNat_ofNat', Nat.add_comm]

/-- Numbers that fit into the bytes are told by them. -/
lemma Sha256.bigEndian_inj {count n m : Nat} (n_fits : n < 256 ^ count) (m_fits : m < 256 ^ count) :
    bigEndian count n = bigEndian count m ↔ n = m := by
  refine ⟨fun same => ?_, congrArg _⟩
  have numbers := congrArg ofBigEndian same
  rwa [ofBigEndian_bigEndian, ofBigEndian_bigEndian, Nat.mod_eq_of_lt n_fits,
    Nat.mod_eq_of_lt m_fits] at numbers

end Quorum
