import Quorum.Proofs.Disk.Entry
import Quorum.Proofs.Disk.Move

/-!
# Work on the names in one directory

Whatever is done to names that are joined to one path, the path leads to the same directory before
and after, unless it leads nowhere. So each operation that succeeds is an update of one shelf.
-/

namespace Quorum.Disk

open Function (update)
open Quorum.Path (Fits Plain)

variable {d d' : Disk} {home : Path} {n m : Nat} {a b name other text : String} {entry : Entry}
  {place : Place}

/-- A path leads to no directory but one, on a disk where everything stands in one place. -/
structure Anchored (home : Path) (n : Nat) (d : Disk) : Prop where
  tidy : d.Tidy
  unshared : d.Unshared
  base : ∀ m, d.base home = .ok m → m = n

namespace Anchored

lemma of_base (tidy : d.Tidy) (unshared : d.Unshared) (base : d.base home = .ok n) :
    Anchored home n d := by
  refine ⟨tidy, unshared, fun m base' => ?_⟩
  rw [base] at base'
  exact (Except.ok.inj base').symm

lemma of_spares (h : Anchored home n d) (base : d.base home = .ok n)
    (spares : Spares other d d') : Anchored home n d' :=
  of_base spares.tidy (spares.unshared h.unshared) (spares.base_eq_ok base)

/-- Joined names are found in the directory itself. -/
lemma exists_of_locate (h : Anchored home n d) (plain : Plain name)
    (located : d.locate (Path.join home name) = .ok place) :
    d.base home = .ok n ∧ place = .slot ⟨n, name⟩ ∧ Fits home name := by
  obtain ⟨m, base, rfl, fits⟩ := (locate_join_eq_ok_iff plain).mp located
  obtain rfl := h.base m base
  exact ⟨base, rfl, fits⟩

lemma exists_of_findFile (h : Anchored home n d) (plain : Plain name) {s : Slot}
    (found : d.findFile (Path.join home name) = .ok (s, text)) :
    d.base home = .ok n ∧ s = ⟨n, name⟩ ∧ d.shelf home n name = some (.file text) := by
  obtain ⟨located, there, _⟩ := findFile_eq_ok_iff.mp found
  obtain ⟨base, slot_eq, fits⟩ := h.exists_of_locate plain located
  cases slot_eq
  exact ⟨base, rfl, shelf_eq_some_iff.mpr ⟨fits, there⟩⟩

/-! ### Operations that succeed -/

lemma remove (h : Anchored home n d) (plain : Plain a)
    (removed : d.remove (Path.join home a) = .ok d') :
    Anchored home n d' ∧ d'.shelf home n = update (d.shelf home n) a none := by
  obtain ⟨s, text, found, rfl⟩ := exists_of_remove removed
  obtain ⟨base, rfl, there⟩ := h.exists_of_findFile plain found
  have spares := Spares.drop h.tidy (shelf_eq_some_iff.mp there).2
  exact ⟨h.of_spares base spares, shelf_drop d home n a⟩

lemma write (h : Anchored home n d) (plain : Plain a)
    (written : d.write (Path.join home a) text = .ok d') :
    Anchored home n d' ∧ d'.shelf home n = update (d.shelf home n) a (some (.file text)) := by
  obtain ⟨s, free, rfl⟩ := exists_of_write written
  obtain ⟨located, no_directory, _⟩ := exists_of_fileSlot free
  obtain ⟨base, slot_eq, fits⟩ := h.exists_of_locate plain located
  cases slot_eq
  exact ⟨h.of_spares base (Spares.put h.tidy no_directory text), shelf_put d fits n _⟩

lemma append (h : Anchored home n d) (plain : Plain a)
    (appended : d.append (Path.join home a) text = .ok d') :
    Anchored home n d' ∧ ∃ old, d.shelf home n a = some (.file old) ∧
      d'.shelf home n = update (d.shelf home n) a (some (.file (old ++ text))) := by
  obtain ⟨s, old, found, rfl⟩ := exists_of_append appended
  obtain ⟨base, rfl, there⟩ := h.exists_of_findFile plain found
  obtain ⟨fits, at_slot⟩ := shelf_eq_some_iff.mp there
  have spares := Spares.put h.tidy (noDirectory_of_file at_slot) (old ++ text)
  exact ⟨h.of_spares base spares, old, there, shelf_put d fits n _⟩

lemma copy (h : Anchored home n d) (plain_a : Plain a) (plain_b : Plain b)
    (copied : d.copy (Path.join home a) (Path.join home b) = .ok d') :
    Anchored home n d' ∧ ∃ text, d.shelf home n a = some (.file text) ∧
      d'.shelf home n = update (d.shelf home n) b (some (.file text)) := by
  obtain ⟨text, read, written⟩ := exists_of_copy copied
  obtain ⟨s, found⟩ := read_eq_ok_iff.mp read
  obtain ⟨_, _, there⟩ := h.exists_of_findFile plain_a found
  obtain ⟨anchored, shelf_eq⟩ := h.write plain_b written
  exact ⟨anchored, text, there, shelf_eq⟩

/-- What is given a free name, or a file that is given any, leaves its own name free. -/
lemma rename (h : Anchored home n d) (plain_a : Plain a) (plain_b : Plain b) (apart : a ≠ b)
    (free : d.shelf home n b = none ∨ ∃ text, d.shelf home n a = some (.file text))
    (renamed : d.rename (Path.join home a) (Path.join home b) = .ok d') :
    Anchored home n d' ∧
      d'.shelf home n = update (update (d.shelf home n) a none) b (d.shelf home n a) := by
  obtain ⟨s, t, entry, located, located', at_slot, moved, _⟩ := exists_of_rename renamed
  obtain ⟨base, slot_eq, fits_a⟩ := h.exists_of_locate plain_a located
  cases slot_eq
  obtain ⟨_, slot_eq, fits_b⟩ := h.exists_of_locate plain_b located'
  cases slot_eq
  have slots_apart : (⟨n, a⟩ : Slot) ≠ ⟨n, b⟩ := fun same => apart (congrArg Slot.name same)
  have there : d.shelf home n a = some entry := shelf_eq_some_iff.mpr ⟨fits_a, at_slot⟩
  obtain rfl := eq_of_move moved slots_apart
  refine ⟨?_, by rw [shelf_put _ fits_b, shelf_drop, there]⟩
  rcases free with free | ⟨text, file⟩
  · -- a directory may move as well, and may be one that the path leads through
    have free : d.lookup? ⟨n, b⟩ = none := by
      rwa [shelf, if_pos fits_b] at free
    refine ⟨(h.tidy.drop _).put _ _, h.unshared.moved at_slot slots_apart, fun m base' => ?_⟩
    exact (agrees_moved h.tidy h.unshared at_slot slots_apart free rfl).base base base'
  · rw [there] at file
    cases file
    obtain ⟨no_directory, _⟩ := eq_of_move_file moved
    have dropped := Spares.drop h.tidy at_slot
    have put := Spares.put dropped.tidy (no_directory.drop ⟨n, a⟩) text
    exact (h.of_spares base dropped).of_spares (dropped.base_eq_ok base) put

end Anchored

end Quorum.Disk
