import Quorum.Proofs.Storage.Interruption

/-!
# The directory after a save

A save moves backups, and one of them may be a directory through which the path of the storage
leads. When the save is done, the path leads where it led. When it fails, the path leads there too
if no name of a backup is in it.
-/

namespace Quorum.Storage

open Disk (Spares)

variable {s : Storage} {d d' : Disk} {fault : Option Fault} {w : Wallet} {home : Path}
  {name text : String} {n : Nat}

/-- Until the new file is put in place, only the file beside it is touched. -/
lemma spares_preparation (home_eq : s.Housed home name) (tidy : d.Tidy)
    (reaches : Reaches (s.preparation text) d d') : Spares (temporaryName name) d d' := by
  have plain := temporaryName_plain home_eq.plain
  rw [preparation, home_eq.temporaryPath_eq] at reaches
  have named {d : Disk} {t : Slot}
      (located : d.locate (Path.join home (temporaryName name)) = .ok (.slot t)) :
      t.name = temporaryName name :=
    Disk.name_of_locate_join plain.slash plain.named located
  rcases reaches_cons_iff.mp reaches with left | ⟨created, applied, reaches⟩
  · cases left
    exact .refl tidy
  · obtain ⟨t, free, rfl⟩ := Disk.exists_of_write applied
    obtain ⟨located, no_directory, _⟩ := Disk.exists_of_fileSlot free
    have first : Spares (temporaryName name) d (d.put t (.file "")) :=
      named located ▸ Spares.put tidy no_directory ""
    have added {part : String} {next : Disk} (appended : (d.put t (.file "")).append
        (Path.join home (temporaryName name)) part = .ok next) :
        Spares (temporaryName name) d next := by
      obtain ⟨u, old, found, rfl⟩ := Disk.exists_of_append appended
      obtain ⟨located, there, _⟩ := Disk.findFile_eq_ok_iff.mp found
      exact first.trans
        (named located ▸ Spares.put first.tidy (Disk.noDirectory_of_file there) _)
    rcases reaches_cons_iff.mp reaches with left | ⟨written, applied, reaches⟩
    · cases left with
      | nothing => exact first
      | added part appended => exact added appended
    · rcases reaches_cons_iff.mp reaches with left | ⟨_, ⟨⟩, reaches⟩
      · cases left
        exact added applied
      · obtain rfl := reaches_nil_iff.mp reaches
        exact added applied

lemma base_of_stops (home_eq : s.Housed home name) (tidy : d.Tidy) (unshared : d.Unshared)
    (settled : s.Settled d) (base : d.base home = .ok n) (stops : Stops (s.savePlan w d) d d') :
    d'.base home = .ok n := by
  by_cases keeps : s.Keeps d
  · have there := keeps.2.2
    rw [home_eq.hasLedger_eq, home_eq.ledgerPath_eq, Disk.under?_join home_eq.plain base] at there
    obtain ⟨entry, there⟩ := Option.isSome_iff_exists.mp there
    obtain ⟨fits, _⟩ := Disk.shelf_eq_some_iff.mp there
    obtain ⟨steady, _⟩ :=
      worn_of_stops home_eq (.of_base home_eq tidy unshared settled base fits) stops
    exact steady.base home_eq.plain
  · have reaches := reaches_of_stops stops
    rw [backup_of_not_keeps keeps, List.nil_append] at reaches
    exact (spares_preparation home_eq tidy reaches).base_eq_ok base

/-- The path of the data directory leads where it led, whether or not a save succeeds; if it fails,
the path must not have the name of a backup in it. -/
theorem base_of_save {dataDir : Path} (tidy : d.Tidy) (unshared : d.Unshared)
    (base : d.base dataDir = .ok n)
    (sound : (({ dataDir } : Storage).save w d).1 = .ok () ∨
      ∀ i, backupName ledgerName i ∉ dataDir.parts) :
    (({ dataDir } : Storage).save w d).2.base dataDir = .ok n := by
  have home_eq := housed dataDir
  cases result : (({ dataDir } : Storage).save w d).1 with
  | ok => exact base_of_saved home_eq tidy unshared base result
  | error e =>
    rcases sound with saved | other
    · rw [result] at saved
      cases saved
    · have settled := settled_of_not_mem_parts (d := d) home_eq other
      exact base_of_stops home_eq tidy unshared settled base (stops_of_save result)

end Quorum.Storage
