import Mathlib.Data.List.Forall2
import Mathlib.Tactic.Lemma
import Quorum.Text.Blank
import Quorum.Text.Hex
import Quorum.Text.Utf8

/-!
# Digits of either case

A text may have capitals where another has small letters. The digits of bytes are read as these bytes
however their letters are written, and so it is for the mark before them.
-/

namespace Quorum

/-! ### Letter case -/

/-- The second text is the first, of which some letters may be written as capitals. -/
def Text.Recased (cs ds : List Char) : Prop :=
  List.Forall₂ (fun c d => d = c ∨ d = c.toUpper) cs ds

namespace Text.Recased

@[refl] lemma refl (cs : List Char) : Recased cs cs :=
  List.forall₂_same.mpr fun _ _ => .inl rfl

lemma capitals (cs : List Char) : Recased cs (cs.map Char.toUpper) :=
  List.forall₂_map_right_iff.mpr (List.forall₂_same.mpr fun _ _ => .inr rfl)

end Text.Recased

namespace Hex

variable {bs : List UInt8} {cs : List Char} {c : Char}

/-! ### Digits -/

lemma mem_encode (h : c ∈ encode bs) : ∃ n < 16, c = digit n := by
  induction bs with
  | nil => cases h
  | cons b bs ih =>
    have high : b.toNat / 16 < 16 := by have := b.toNat_lt; omega
    rcases List.mem_cons.mp h with rfl | h
    · exact ⟨_, high, rfl⟩
    · rcases List.mem_cons.mp h with rfl | h
      · exact ⟨_, Nat.mod_lt _ (by decide), rfl⟩
      · exact ih h

/-- A character that takes one byte, which is a digit of the given value. -/
def Denotes (c : Char) (n : Nat) : Prop :=
  Text.isBlank c = false ∧ String.utf8EncodeChar c = [UInt8.ofNat c.toNat] ∧
    value? (UInt8.ofNat c.toNat) = some n

instance (c : Char) (n : Nat) : Decidable (Denotes c n) :=
  inferInstanceAs (Decidable (_ ∧ _ ∧ _))

lemma denotes_recased {n : Nat} (small : n < 16) (h : c = digit n ∨ c = (digit n).toUpper) :
    Denotes c n := by
  have either : ∀ n < 16, Denotes (digit n) n ∧ Denotes (digit n).toUpper n := by decide
  rcases h with rfl | rfl
  · exact (either n small).1
  · exact (either n small).2

lemma isBlank_of_mem_recased (h : Text.Recased (encode bs) cs) (mem : c ∈ cs) :
    Text.isBlank c = false := by
  obtain ⟨i, inside, rfl⟩ := List.getElem_of_mem mem
  have inside' : i < (encode bs).length := h.length_eq ▸ inside
  obtain ⟨n, small, same⟩ := mem_encode (List.getElem_mem inside')
  exact (denotes_recased small (same ▸ h.get inside' inside)).1

/-- Two digits of either case are two bytes, from which one byte is read. -/
lemma decodePairs_recased (h : Text.Recased (encode bs) cs) :
    (Text.utf8 cs).length = 2 * bs.length ∧
      ∀ position, decodePairs position (Text.utf8 cs) = .ok bs := by
  induction bs generalizing cs with
  | nil =>
    cases h
    exact ⟨rfl, fun _ => rfl⟩
  | cons b bs ih =>
    have high : b.toNat / 16 < 16 := by have := b.toNat_lt; omega
    have low : b.toNat % 16 < 16 := Nat.mod_lt _ (by decide)
    obtain _ | ⟨first, _ | ⟨second, rest⟩⟩ := h
    obtain ⟨_, one, value⟩ := denotes_recased high first
    obtain ⟨_, one', value'⟩ := denotes_recased low second
    obtain ⟨length, read⟩ := ih rest
    refine ⟨?_, fun position => ?_⟩
    · simp [one, one', length, Nat.mul_succ]
    · simp [decodePairs, one, one', value, value', read, Except.map, Nat.div_add_mod]

/-- The digits of bytes are read as these bytes, whichever letters are capitals. -/
theorem decode_recased (h : Text.Recased (encode bs) cs) : decode (Text.utf8 cs) = .ok bs := by
  obtain ⟨length, read⟩ := decodePairs_recased h
  rw [decode, if_neg (by omega), read]

lemma decode_utf8_encode (bs : List UInt8) : decode (Text.utf8 (encode bs)) = .ok bs :=
  decode_recased (.refl _)

/-! ### Marked digits -/

/-- Nothing is trimmed of digits with a mark, and the mark is found. -/
lemma afterMark?_recased (h : Text.Recased (marked bs).toList cs) :
    Text.trim cs = cs ∧ ∃ ds, afterMark? cs = some ds ∧ Text.Recased (encode bs) ds := by
  rw [marked, String.toList_ofList] at h
  obtain _ | ⟨zero, _ | ⟨mark, digits⟩⟩ := h
  rename_i x ds
  refine ⟨Text.trim_of_all_not_blank fun c mem => ?_, ds, ?_, digits⟩
  · rcases List.mem_cons.mp mem with rfl | mem
    · rcases zero with rfl | rfl <;> rfl
    · rcases List.mem_cons.mp mem with rfl | mem
      · rcases mark with rfl | rfl <;> rfl
      · exact isBlank_of_mem_recased digits mem
  · rcases zero with rfl | rfl <;> rcases mark with rfl | rfl <;> rfl

end Hex

end Quorum
