import Mathlib.Logic.Function.Basic
import Quorum.Proofs.Disk.Frame

/-!
# What stands under a path

A path to a plain name leads to that name in the directory before it, if both are short enough. So
the table of the directory tells all that such paths lead to, and whoever changes one name in it
changes nothing else.
-/

namespace Quorum

namespace Path

/-- A text that can be the name of a file. -/
structure Plain (name : String) : Prop where
  slash : '/' ∉ name.toList
  zero : '\x00' ∉ name.toList
  named : name ≠ "" ∧ name ≠ "." ∧ name ≠ ".."

/-- A name and the path to it are short enough to be followed. -/
structure Fits (directory : Path) (name : String) : Prop where
  short : name.utf8ByteSize ≤ Disk.maxNameSize
  followed : (join directory name).utf8ByteSize ≤ Disk.maxPathSize

instance (directory : Path) (name : String) : Decidable (Fits directory name) :=
  decidable_of_iff (name.utf8ByteSize ≤ Disk.maxNameSize ∧
      (join directory name).utf8ByteSize ≤ Disk.maxPathSize)
    ⟨fun ⟨short, followed⟩ => ⟨short, followed⟩, fun fits => ⟨fits.short, fits.followed⟩⟩

end Path

namespace Disk

open Quorum.Path (Fits Plain)

variable {d d' : Disk} {s : Slot} {p directory : Path} {name other text : String} {place : Place}
  {n : Nat} {entry : Entry}

lemma file?_eq_some_iff : d.file? s = some text ↔ d.lookup? s = some (.file text) := by
  unfold file?
  split
  · rename_i there
    simp [there]
  · rename_i other
    simp only [reduceCtorEq, false_iff]
    exact other text

/-- What stands under the name to which a path leads. -/
def under? (d : Disk) (p : Path) : Option Entry :=
  match d.locate p with
  | .ok (.slot s) => d.lookup? s
  | _ => none

lemma under?_eq_some_iff :
    d.under? p = some entry ↔ ∃ s, d.locate p = .ok (.slot s) ∧ d.lookup? s = some entry := by
  unfold under?
  split
  · rename_i s located
    simp [located]
  · rename_i elsewhere
    simp only [reduceCtorEq, false_iff, not_exists, not_and]
    intro s located
    exact absurd located (elsewhere s)

/-- A file is read exactly if it stands under the path. -/
lemma read_eq_ok_iff_under? (slash : p.endsInSlash = false) :
    d.read p = .ok text ↔ d.under? p = some (.file text) := by
  simp only [read_eq_ok_iff, findFile_eq_ok_iff, under?_eq_some_iff, slash, and_true]

/-! ### The names in a directory -/

/-- What the names in a directory stand for, as far as paths to them can be followed. -/
def shelf (d : Disk) (directory : Path) (n : Nat) (name : String) : Option Entry :=
  if Fits directory name then d.lookup? ⟨n, name⟩ else none

lemma shelf_eq_some_iff : d.shelf directory n name = some entry ↔
    Fits directory name ∧ d.lookup? ⟨n, name⟩ = some entry := by
  unfold shelf
  split
  · rename_i fits
    simp [fits]
  · rename_i unfit
    simp [unfit]

/-- What is dropped leaves its name free. -/
lemma shelf_drop (d : Disk) (directory : Path) (n : Nat) (name : String) :
    (d.drop ⟨n, name⟩).shelf directory n = Function.update (d.shelf directory n) name none := by
  funext other
  rw [Function.update_apply, shelf, shelf, lookup?_drop]
  by_cases same : other = name
  · subst same
    simp
  · have apart : (⟨n, name⟩ : Slot) ≠ ⟨n, other⟩ := fun h => same (congrArg Slot.name h).symm
    rw [if_neg same, if_neg apart]

lemma shelf_put (d : Disk) (fits : Fits directory name) (n : Nat) (entry : Entry) :
    (d.put ⟨n, name⟩ entry).shelf directory n
      = Function.update (d.shelf directory n) name (some entry) := by
  funext other
  rw [Function.update_apply, shelf, shelf, lookup?_put]
  by_cases same : other = name
  · subst same
    simp [fits]
  · have apart : (⟨n, name⟩ : Slot) ≠ ⟨n, other⟩ := fun h => same (congrArg Slot.name h).symm
    rw [if_neg same, if_neg apart]

/-- A path to a plain name leads to the name or nowhere. -/
lemma locate_join_eq_ok_iff (plain : Plain name) :
    d.locate (Path.join directory name) = .ok place ↔
      ∃ n, d.base directory = .ok n ∧ place = .slot ⟨n, name⟩ ∧ Fits directory name := by
  constructor
  · intro located
    obtain ⟨n, base, rfl⟩ := exists_of_locate_join plain.slash plain.named located
    obtain ⟨_, follows⟩ := follows_of_locate located
    have followable := (locate_eq_ok_iff.mp located).1
    exact ⟨n, base, rfl, follows.named.2, followable.fits⟩
  · rintro ⟨n, base, rfl, fits⟩
    exact locate_join_of_base base ⟨plain.slash, plain.zero⟩ plain.named fits.short fits.followed

lemma under?_join_eq_some_iff (plain : Plain name) :
    d.under? (Path.join directory name) = some entry ↔
      ∃ n, d.base directory = .ok n ∧ d.shelf directory n name = some entry := by
  simp only [under?_eq_some_iff, locate_join_eq_ok_iff plain, shelf_eq_some_iff, Place.slot.injEq]
  constructor
  · rintro ⟨s, ⟨n, base, rfl, fits⟩, there⟩
    exact ⟨n, base, fits, there⟩
  · rintro ⟨n, base, fits, there⟩
    exact ⟨_, ⟨n, base, rfl, fits⟩, there⟩

lemma under?_join (plain : Plain name) (base : d.base directory = .ok n) :
    d.under? (Path.join directory name) = d.shelf directory n name := by
  refine Option.ext fun entry => ?_
  simp only [under?_join_eq_some_iff plain, base, Except.ok.injEq, exists_eq_left']

lemma read_join_eq_ok_iff (plain : Plain name) :
    d.read (Path.join directory name) = .ok text ↔
      ∃ n, d.base directory = .ok n ∧ d.shelf directory n name = some (.file text) := by
  rw [read_eq_ok_iff_under? (Path.endsInSlash_join directory plain.slash plain.named.1),
    under?_join_eq_some_iff plain]

/-- The last name of a path that can be read is one of a file. -/
lemma plain_of_read_join (slash : '/' ∉ name.toList)
    (read : d.read (Path.join directory name) = .ok text) : Plain name := by
  obtain ⟨s, found⟩ := read_eq_ok_iff.mp read
  obtain ⟨located, _, no_slash⟩ := findFile_eq_ok_iff.mp found
  obtain ⟨last, follows⟩ := follows_of_locate located
  have followable := (locate_eq_ok_iff.mp located).1
  have given : name ≠ "" := by
    rintro rfl
    by_cases ends : directory.endsInSlash = true
    · simp [Path.join_of_endsInSlash ends slash, ends] at no_slash
    · by_cases empty : directory = ""
      · exact followable.given (by simp [Path.join, empty])
      · simp [Path.join, Path.isAbsolute, Path.endsInSlash, empty] at no_slash ends
        simp [ends] at no_slash
  have named : s.name = name := by
    rw [Path.getLast?_parts_join directory slash given] at last
    exact (Option.some.inj last).symm
  refine ⟨slash, fun zero => followable.nonzero ?_, given, ?_⟩
  · obtain ⟨front, chars⟩ := Path.exists_toList_join directory slash
    rw [chars]
    exact List.mem_append_right front zero
  · rw [← named]
    exact follows.named.1

/-- There is something exactly where an entry stands. -/
lemma exists?_join (plain : Plain name) :
    d.exists? (Path.join directory name) = (d.under? (Path.join directory name)).isSome := by
  have slash := Path.endsInSlash_join directory plain.slash plain.named.1
  cases located : d.locate (Path.join directory name) with
  | error e =>
    simp [exists?, findFile, isDirectory, findDirectory, under?, located, Except.isOk,
      Except.toBool]
  | ok place =>
    obtain ⟨n, _, rfl, _⟩ := (locate_join_eq_ok_iff plain).mp located
    cases there : d.lookup? ⟨n, name⟩ with
    | none =>
      simp [exists?, findFile, isDirectory, findDirectory, enter, under?, located, there,
        Except.isOk, Except.toBool]
    | some entry =>
      cases entry with
      | file text =>
        simp [exists?, findFile, under?, located, there, slash, Except.isOk, Except.toBool]
      | directory number =>
        simp [exists?, isDirectory, findDirectory, enter, under?, located, there, Except.isOk,
          Except.toBool]

/-- The directories in a directory are those that stand on its shelf. -/
lemma base_join_eq_ok_iff (plain : Plain name) {number : Nat} :
    d.base (Path.join directory name) = .ok number ↔
      ∃ n, d.base directory = .ok n ∧ d.shelf directory n name = some (.directory number) := by
  have given : Path.join directory name ≠ "" := by
    intro empty
    have last := Path.getLast?_parts_join directory plain.slash plain.named.1
    rw [empty] at last
    cases last
  rw [Disk.base, if_neg given, findDirectory]
  constructor
  · intro found
    split at found
    · cases found
    · rename_i place located
      obtain ⟨n, base, rfl, fits⟩ := (locate_join_eq_ok_iff plain).mp located
      refine ⟨n, base, shelf_eq_some_iff.mpr ⟨fits, ?_⟩⟩
      simp only [enter] at found
      split at found
      · cases found
      · cases found
      · cases found
        assumption
  · rintro ⟨n, base, there⟩
    obtain ⟨fits, there⟩ := shelf_eq_some_iff.mp there
    rw [(locate_join_eq_ok_iff plain).mpr ⟨n, base, rfl, fits⟩]
    simp only [enter, there]

/-! ### What was spared -/

/-- In a directory that was there before, just those files are read that were read before. -/
lemma Spares.read_join_eq_ok_iff (h : Spares other d d') (base : d.base directory = .ok n)
    (plain : Plain name) (apart : name ≠ other) :
    d'.read (Path.join directory name) = .ok text ↔
      d.read (Path.join directory name) = .ok text := by
  have same := h.file?_eq ⟨n, name⟩ apart
  simp only [Disk.read_join_eq_ok_iff plain, h.base_eq_ok base, base, Except.ok.injEq,
    exists_eq_left', shelf_eq_some_iff, ← file?_eq_some_iff, same]

/-- What is read in a directory below one that was there, be it a new one, was read before. -/
lemma Spares.read_below (h : Spares other d d') (base : d.base directory = .ok n) {below : String}
    (plain_below : Plain below) (plain : Plain name) (apart : name ≠ other)
    (read : d'.read (Path.join (Path.join directory below) name) = .ok text) :
    d.read (Path.join (Path.join directory below) name) = .ok text := by
  obtain ⟨number, base', there⟩ := (Disk.read_join_eq_ok_iff plain).mp read
  obtain ⟨n', base_n, shelved⟩ := (base_join_eq_ok_iff plain_below).mp base'
  obtain rfl : n = n' := by
    rw [h.base_eq_ok base] at base_n
    exact Except.ok.inj base_n
  obtain ⟨fits_below, stands⟩ := shelf_eq_some_iff.mp shelved
  obtain ⟨fits, there⟩ := shelf_eq_some_iff.mp there
  have before : d.lookup? ⟨number, name⟩ = some (.file text) := by
    rw [← file?_eq_some_iff, ← h.file?_eq ⟨number, name⟩ apart, file?_eq_some_iff]
    exact there
  -- a directory that was not there would have been empty
  rcases h.vacant _ number stands with standing | free
  · refine (Disk.read_join_eq_ok_iff plain).mpr ⟨number, ?_, shelf_eq_some_iff.mpr ⟨fits, before⟩⟩
    exact (base_join_eq_ok_iff plain_below).mpr
      ⟨n, base, shelf_eq_some_iff.mpr ⟨fits_below, standing⟩⟩
  · rw [free name apart] at before
    cases before

end Disk

end Quorum
