import Quorum.Address

/-!
# Tables by address

A table is the list of its entries in increasing order of their addresses. Each operation is
described by what it does to the lookup of an address.
-/

namespace Quorum

/-- A finite map from addresses, in increasing order of the addresses. -/
structure AddressMap (α : Type) where
  entries : List (Address × α)
  sorted : entries.Pairwise (·.1 < ·.1)
deriving DecidableEq

namespace AddressMap

variable {α : Type}

/-- Puts an entry in its place, or in place of the one with its address. -/
def place (a : Address) (v : α) : List (Address × α) → List (Address × α)
  | [] => [(a, v)]
  | e :: es =>
    if a < e.1 then (a, v) :: e :: es else if a = e.1 then (a, v) :: es else e :: place a v es

/-- The value of the entry with a given address. -/
def find? (a : Address) : List (Address × α) → Option α
  | [] => none
  | e :: es => if e.1 = a then some e.2 else find? a es

theorem key_mem_place {a : Address} {v : α} {es : List (Address × α)} {x : Address × α}
    (h : x ∈ place a v es) : x.1 = a ∨ x ∈ es := by
  induction es with
  | nil => simp_all [place]
  | cons e es ih =>
    simp only [place] at h
    split at h
    · rcases List.mem_cons.1 h with rfl | h
      · exact .inl rfl
      · exact .inr h
    · split at h
      · rcases List.mem_cons.1 h with rfl | h
        · exact .inl rfl
        · exact .inr (List.mem_cons_of_mem _ h)
      · rcases List.mem_cons.1 h with rfl | h
        · exact .inr (List.mem_cons_self ..)
        · exact (ih h).imp id (List.mem_cons_of_mem _)

theorem sorted_place {a : Address} {v : α} {es : List (Address × α)}
    (h : es.Pairwise (·.1 < ·.1)) : (place a v es).Pairwise (·.1 < ·.1) := by
  induction es with
  | nil => simp [place]
  | cons e es ih =>
    have ⟨he, hes⟩ := List.pairwise_cons.1 h
    simp only [place]
    split
    · rename_i lt
      refine List.pairwise_cons.2 ⟨fun x hx => ?_, h⟩
      rcases List.mem_cons.1 hx with rfl | hx
      · exact lt
      · exact Address.lt_trans lt (he x hx)
    · split
      · rename_i eq
        exact List.pairwise_cons.2 ⟨fun x hx => eq ▸ he x hx, hes⟩
      · rename_i nlt ne
        refine List.pairwise_cons.2 ⟨fun x hx => ?_, ih hes⟩
        rcases key_mem_place hx with e' | hx
        · exact e' ▸ Address.lt_of_not_lt_of_ne nlt ne
        · exact he x hx

def empty : AddressMap α := ⟨[], List.Pairwise.nil⟩

def get? (m : AddressMap α) (a : Address) : Option α :=
  find? a m.entries

def contains (m : AddressMap α) (a : Address) : Bool :=
  (m.get? a).isSome

def insert (m : AddressMap α) (a : Address) (v : α) : AddressMap α :=
  ⟨place a v m.entries, sorted_place m.sorted⟩

/-- The table of a list of entries; the later of two for one address counts. -/
def ofList (es : List (Address × α)) : AddressMap α :=
  es.foldl (fun m e => m.insert e.1 e.2) empty

/-! ### Lookup -/

theorem find?_place (a x : Address) (v : α) (es : List (Address × α)) :
    find? x (place a v es) = if a = x then some v else find? x es := by
  induction es with
  | nil => simp [place, find?]
  | cons e es ih =>
    simp only [place]
    split
    · simp [find?]
    · split
      · rename_i eq
        simp only [find?, ← eq]
        split <;> rfl
      · rename_i ne
        simp only [find?, ih]
        by_cases h : e.1 = x
        · simp [h, show a ≠ x from fun e' => ne (e'.trans h.symm)]
        · simp [h]

@[simp] theorem get?_empty (a : Address) : (empty : AddressMap α).get? a = none := rfl

theorem get?_insert (m : AddressMap α) (a x : Address) (v : α) :
    (m.insert a v).get? x = if a = x then some v else m.get? x :=
  find?_place a x v m.entries

@[simp] theorem get?_insert_self (m : AddressMap α) (a : Address) (v : α) :
    (m.insert a v).get? a = some v := by
  simp [get?_insert]

theorem get?_insert_of_ne (m : AddressMap α) {a x : Address} (v : α) (h : a ≠ x) :
    (m.insert a v).get? x = m.get? x := by
  simp [get?_insert, h]

end AddressMap

end Quorum
