import Quorum.Address

/-!
# Sets of addresses

A set is the increasing list of its members. Each operation is described by what it does to
membership.
-/

namespace Quorum

/-- A finite set of addresses, in increasing order. -/
structure AddressSet where
  toList : List Address
  sorted : toList.Pairwise (· < ·)
deriving DecidableEq

namespace AddressSet

/-- Puts an address in its place. -/
def place (a : Address) : List Address → List Address
  | [] => [a]
  | b :: bs => if a < b then a :: b :: bs else if a = b then b :: bs else b :: place a bs

theorem mem_place {a x : Address} {l : List Address} : x ∈ place a l ↔ x = a ∨ x ∈ l := by
  induction l with
  | nil => simp [place]
  | cons b bs ih =>
    simp only [place]
    split
    · simp
    · split
      · rename_i e; subst e; simp
      · simp only [List.mem_cons, ih, or_left_comm]

theorem sorted_place {a : Address} {l : List Address} (h : l.Pairwise (· < ·)) :
    (place a l).Pairwise (· < ·) := by
  induction l with
  | nil => simp [place]
  | cons b bs ih =>
    have ⟨hb, hbs⟩ := List.pairwise_cons.1 h
    simp only [place]
    split
    · rename_i ab
      refine List.pairwise_cons.2 ⟨fun x hx => ?_, h⟩
      rcases List.mem_cons.1 hx with rfl | hx
      · exact ab
      · exact Address.lt_trans ab (hb x hx)
    · split
      · exact h
      · rename_i nlt ne
        refine List.pairwise_cons.2 ⟨fun x hx => ?_, ih hbs⟩
        rcases mem_place.1 hx with rfl | hx
        · exact Address.lt_of_not_lt_of_ne nlt ne
        · exact hb x hx

def empty : AddressSet := ⟨[], List.Pairwise.nil⟩

def contains (s : AddressSet) (a : Address) : Bool :=
  decide (a ∈ s.toList)

def insert (s : AddressSet) (a : Address) : AddressSet :=
  ⟨place a s.toList, sorted_place s.sorted⟩

def erase (s : AddressSet) (a : Address) : AddressSet :=
  ⟨s.toList.filter (· ≠ a), s.sorted.filter _⟩

/-- The number of members. -/
def size (s : AddressSet) : Nat := s.toList.length

/-- The set of the addresses in a list. -/
def ofList (as : List Address) : AddressSet :=
  as.foldl insert empty

/-! ### Membership -/

instance : Membership Address AddressSet := ⟨fun s a => a ∈ s.toList⟩

instance (s : AddressSet) (a : Address) : Decidable (a ∈ s) :=
  inferInstanceAs (Decidable (a ∈ s.toList))

theorem mem_toList {s : AddressSet} {a : Address} : a ∈ s.toList ↔ a ∈ s := Iff.rfl

@[simp] theorem contains_iff {s : AddressSet} {a : Address} : s.contains a = true ↔ a ∈ s := by
  simp [contains, mem_toList]

@[simp] theorem contains_eq_false_iff {s : AddressSet} {a : Address} :
    s.contains a = false ↔ a ∉ s := by
  simp [contains, mem_toList]

@[simp] theorem not_mem_empty (a : Address) : ¬ a ∈ empty := by
  simp [← mem_toList, empty]

@[simp] theorem mem_insert {s : AddressSet} {a x : Address} :
    x ∈ s.insert a ↔ x = a ∨ x ∈ s :=
  mem_place

@[simp] theorem mem_erase {s : AddressSet} {a x : Address} :
    x ∈ s.erase a ↔ x ∈ s ∧ x ≠ a := by
  simp [← mem_toList, erase]

theorem mem_ofList {as : List Address} {x : Address} : x ∈ ofList as ↔ x ∈ as := by
  have go : ∀ (as : List Address) (s : AddressSet), x ∈ as.foldl insert s ↔ x ∈ as ∨ x ∈ s := by
    intro as
    induction as with
    | nil => simp
    | cons a as ih =>
      intro s
      rw [List.foldl_cons, ih, mem_insert, List.mem_cons, or_left_comm, or_assoc]
  simp [ofList, go]

theorem nodup (s : AddressSet) : s.toList.Nodup :=
  s.sorted.imp fun h => Address.ne_of_lt h

end AddressSet

end Quorum
