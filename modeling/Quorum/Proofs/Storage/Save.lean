import Quorum.Proofs.Disk.Plan
import Quorum.Storage

/-!
# What a save leaves to be loaded

A save that succeeds has done all operations of its plan. After the last of them the ledger file
holds the text of the wallet, whatever the backups before it did.
-/

namespace Quorum

open Disk (NoDirectory SameDirectories Tidy)

variable {d d' : Disk} {p : Path}

/-! ### Writing a file -/

/-- A file at a place to which a path leads. -/
structure Disk.Holds (d : Disk) (p : Path) (s : Slot) (text : String) : Prop where
  located : d.locate p = .ok (.slot s)
  there : d.lookup? s = some (.file text)

lemma Disk.holds_of_write {text : String} (tidy : d.Tidy) (h : d.write p text = .ok d') :
    ∃ s, d'.Holds p s text ∧ d'.Tidy := by
  obtain ⟨s, free_slot, rfl⟩ := exists_of_write h
  obtain ⟨located, free, _⟩ := exists_of_fileSlot free_slot
  refine ⟨s, ⟨?_, by rw [lookup?_put, if_pos rfl]⟩, tidy.put s _⟩
  exact (SameDirectories.put tidy free text).locate_eq_ok tidy (tidy.put s _) located

lemma Disk.Holds.append {s : Slot} {old text : String} (holds : d.Holds p s old) (tidy : d.Tidy)
    (h : d.append p text = .ok d') : d'.Holds p s (old ++ text) ∧ d'.Tidy := by
  obtain ⟨s', old', found, rfl⟩ := exists_of_append h
  obtain ⟨located, there, _⟩ := findFile_eq_ok_iff.mp found
  obtain rfl : s' = s := by
    rw [holds.located] at located
    cases located
    rfl
  obtain rfl : old' = old := by
    rw [holds.there] at there
    cases there
    rfl
  have same := SameDirectories.put tidy (noDirectory_of_file holds.there) (old' ++ text)
  exact ⟨⟨same.locate_eq_ok tidy (tidy.put s' _) located, by rw [lookup?_put, if_pos rfl]⟩,
    tidy.put s' _⟩

/-- A file that is renamed is read under its new name. -/
lemma Disk.Holds.read_of_rename {s : Slot} {text : String} {target : Path}
    (holds : d.Holds p s text) (tidy : d.Tidy) (h : d.rename p target = .ok d') :
    d'.read target = .ok text := by
  obtain ⟨s', t, e, located, target_located, there, moved, slash⟩ := exists_of_rename h
  obtain rfl : s' = s := by
    rw [holds.located] at located
    cases located
    rfl
  obtain rfl : e = .file text := by
    rw [holds.there] at there
    cases there
    rfl
  have no_directory : d.isDirectory p = false := by
    simp [isDirectory, findDirectory, located, enter, there, Except.isOk, Except.toBool]
  obtain ⟨free, rfl⟩ := eq_of_move_file moved
  have free := free.drop s'
  have same := (SameDirectories.drop tidy (noDirectory_of_file there)).trans
    (SameDirectories.put (tidy.drop s') free text)
  rw [read_eq_ok_iff]
  refine ⟨t, findFile_eq_ok_iff.mpr ⟨?_, by rw [lookup?_put, if_pos rfl], slash no_directory⟩⟩
  exact same.locate_eq_ok tidy ((tidy.drop s').put t _) target_located

namespace Storage

variable {s : Storage} {fault : Option Fault} {w : Wallet}

/-- After a replacement the ledger file holds the new text. -/
lemma read_of_replacement {text : String} (tidy : d.Tidy)
    (h : (s.replacement text).foldlM FileOp.apply d = .ok d') :
    d'.read s.ledgerPath = .ok text := by
  obtain ⟨_, created, h⟩ := List.foldlM_cons_eq_ok_iff.mp h
  obtain ⟨slot, holds, tidy⟩ := Disk.holds_of_write tidy created
  obtain ⟨_, appended, h⟩ := List.foldlM_cons_eq_ok_iff.mp h
  obtain ⟨holds, tidy⟩ := holds.append tidy appended
  obtain ⟨_, ⟨⟩, h⟩ := List.foldlM_cons_eq_ok_iff.mp h
  obtain ⟨_, renamed, ⟨⟩⟩ := List.foldlM_cons_eq_ok_iff.mp h
  rw [String.empty_append] at holds
  exact holds.read_of_rename tidy renamed

/-- A save that succeeds has done all operations of its plan. -/
lemma foldlM_of_save (saved : (s.saveWith fault w d).1 = .ok ()) :
    (s.savePlan w d).foldlM FileOp.apply d = .ok (s.saveWith fault w d).2 := by
  refine foldlM_of_runPlan ?_
  cases result : (runPlan fault (s.savePlan w d) d).1 with
  | ok => rfl
  | error e =>
    have failed : (s.saveWith fault w d).1 = .error (.io e) :=
      congrArg (Except.mapError Error.io) result
    rw [failed] at saved
    cases saved

lemma read_of_done (tidy : d.Tidy) (done : (s.savePlan w d).foldlM FileOp.apply d = .ok d') :
    d'.read s.ledgerPath = .ok (fileText w) := by
  obtain ⟨next, kept, replaced⟩ := List.foldlM_append_eq_ok_iff.mp done
  exact read_of_replacement (tidy.foldlM kept) replaced

/-- After a save that succeeds the ledger file holds the text of the wallet. -/
theorem read_of_save (tidy : d.Tidy) (saved : (s.saveWith fault w d).1 = .ok ()) :
    (s.saveWith fault w d).2.read s.ledgerPath = .ok (fileText w) ∧
      (s.saveWith fault w d).2.Tidy := by
  have done := foldlM_of_save saved
  exact ⟨read_of_done tidy done, tidy.foldlM done⟩

lemma read_of_saved (tidy : d.Tidy) (saved : s.save w d = (.ok (), d')) :
    d'.read s.ledgerPath = .ok (fileText w) ∧ d'.Tidy := by
  have disk_eq : (s.saveWith none w d).2 = d' := congrArg Prod.snd saved
  rw [← disk_eq]
  exact read_of_save tidy (congrArg Prod.fst saved)

/-! ### Loading -/

lemma readWallet_of_read {text : String} (h : d.read p = .ok text) :
    readWallet d p = (Wallet.ofText text).mapError .serialization := by
  rw [readWallet, h]

lemma exists_of_readWallet (read : readWallet d p = .ok w) :
    ∃ text, d.read p = .ok text ∧ Wallet.ofText text = .ok w := by
  unfold readWallet at read
  split at read
  · cases read
  · cases read
  · rename_i text read_text
    refine ⟨text, read_text, ?_⟩
    cases accepted : Wallet.ofText text with
    | error problem =>
      rw [accepted] at read
      cases read
    | ok w' =>
      rw [accepted] at read
      cases read
      rfl

lemma hasLedger_of_read {text : String} (h : d.read s.ledgerPath = .ok text) :
    s.hasLedger d = true :=
  Disk.exists?_of_read h

/-- What is loaded is what is read of the text in the ledger file. -/
lemma load_of_read {text : String} (h : d.read s.ledgerPath = .ok text) :
    s.load d = (Wallet.ofText text).mapError .serialization := by
  rw [load, if_pos (hasLedger_of_read h), readWallet_of_read h]

/-- What is loaded was read of the text in the ledger file. -/
lemma exists_of_load (loaded : s.load d = .ok w) :
    ∃ text, d.read s.ledgerPath = .ok text ∧ Wallet.ofText text = .ok w := by
  unfold load at loaded
  split at loaded
  · exact exists_of_readWallet loaded
  · cases loaded

lemma loadBackup_of_read {index : Nat} {text : String}
    (h : d.read (s.backupPath index) = .ok text) :
    s.loadBackup index d = (Wallet.ofText text).mapError .serialization := by
  rw [loadBackup, if_pos (Disk.exists?_of_read h), readWallet_of_read h]

lemma exists_of_loadBackup {index : Nat} (loaded : s.loadBackup index d = .ok w) :
    ∃ text, d.read (s.backupPath index) = .ok text ∧ Wallet.ofText text = .ok w := by
  unfold loadBackup at loaded
  split at loaded
  · exact exists_of_readWallet loaded
  · cases loaded

end Storage

end Quorum
