import Quorum.Proofs.Command.Work
import Quorum.Proofs.Disk.Unwritten
import Quorum.Proofs.Keystore.KeyFile
import Quorum.Proofs.Lock.Acquire
import Quorum.Proofs.Storage.Rotation

/-!
# Opening a data directory

To lock a data directory, to load its ledger and to give the lock back touches no file but the lock
file, whether or not it succeeds. What is loaded is the wallet in the ledger file.
-/

namespace Quorum

open Command (Failure)
open Disk (Spares Unwritten)

variable {env : Environment} {dataDir : Path} {d d' : Disk} {w : Wallet} {s : Workspace}
  {work : Workspace → Attempt Failure (List String)}

/-! ### Ledgers -/

namespace Storage

lemma backupName_ne_lock (index : Nat) : backupName ledgerName index ≠ Lock.fileName := by
  intro same
  have chars := congrArg (·.toList.head?) same
  simp [toList_backupName, ledgerName, Lock.fileName] at chars

/-- The data directory of a ledger that can be loaded is there. -/
lemma made_of_loads (loads : ({ dataDir } : Storage).load d = .ok w) :
    makeDirectories dataDir d = (.ok (), d) ∧ ({ dataDir } : Storage).hasLedger d = true := by
  have home_eq := housed dataDir
  obtain ⟨text, read, _⟩ := exists_of_load loads
  obtain ⟨at_slot, found⟩ := Disk.read_eq_ok_iff.mp read
  obtain ⟨located, _, _⟩ := Disk.findFile_eq_ok_iff.mp found
  rw [home_eq.ledgerPath_eq] at located
  exact ⟨makeDirectories_of_locate_join home_eq.plain.slash home_eq.plain.named located,
    hasLedger_of_read read⟩

end Storage

/-- A ledger that can be loaded is loaded as before if only the lock file may differ. -/
lemma Disk.Spares.load_eq_ok (h : Spares Lock.fileName d d')
    (loads : ({ dataDir } : Storage).load d = .ok w) : ({ dataDir } : Storage).load d' = .ok w := by
  obtain ⟨text, read, accepted⟩ := Storage.exists_of_load loads
  have other : ({ dataDir } : Storage).ledgerPath.parts.getLast? ≠ some Lock.fileName := by
    rw [Storage.getLast?_parts_ledgerPath]
    decide
  rw [Storage.load_of_read (h.read_eq_ok other read), accepted]
  rfl

/-! ### Keys -/

/-- A key that could be loaded is loaded as before if only the lock file may differ. -/
lemma Disk.Spares.keystore_load_eq_ok (h : Spares Lock.fileName d d') {keystore : Keystore}
    {a : Address} {key : OwnerKey} (found : keystore.load a d = .ok key) :
    keystore.load a d' = .ok key := by
  have other : (keystore.keyPath a).parts.getLast? ≠ some Lock.fileName := by
    rw [Keystore.getLast?_parts_keyPath, ne_eq, Option.some.injEq]
    exact Keystore.keyName_ne a (by decide)
  obtain ⟨text, read, gives⟩ := Keystore.load_eq_ok_iff.mp found
  exact Keystore.load_eq_ok_iff.mpr ⟨text, h.read_eq_ok other read, gives⟩

/-! ### Workspaces -/

namespace Workspace

lemma prepare_eq (dataDir : Path) (d : Disk) :
    (({ dataDir } : Storage).prepare.mapError Failure.storage) d
      = ((makeDirectories dataDir d).1.mapError fun e => .storage (.io e),
        (makeDirectories dataDir d).2) := by
  rcases made : makeDirectories dataDir d with ⟨_ | _, d₁⟩
  · exact Attempt.mapError_of_eq (Attempt.mapError_of_eq made _) _
  · exact Attempt.mapError_of_eq (Attempt.mapError_of_eq made _) _

lemma openKeystore_eq (dataDir : Path) (d : Disk) : openKeystore dataDir d =
    match makeDirectories (keystoreOf dataDir).directory d with
    | (.error e, d) => (.error (.keystore (.io e)), d)
    | (.ok (), d) => (.ok (keystoreOf dataDir), d) := by
  rcases made : makeDirectories (keystoreOf dataDir).directory d with ⟨_ | _, d₁⟩
  · exact Attempt.bind_error (Attempt.mapError_of_eq (Attempt.mapError_of_eq made _) _)
  · exact Attempt.bind_ok (Attempt.mapError_of_eq (Attempt.mapError_of_eq made _) _)

lemma findLedger_eq (dataDir : Path) (d : Disk) : findLedger dataDir d =
    match makeDirectories dataDir d with
    | (.error e, d) => (.error (.storage (.io e)), d)
    | (.ok (), d) =>
      if ({ dataDir } : Storage).hasLedger d then (.ok { dataDir }, d)
      else (.error (.noLedger dataDir), d) := by
  have prepared := prepare_eq dataDir d
  rcases made : makeDirectories dataDir d with ⟨_ | _, d₁⟩
  · rw [made] at prepared
    exact Attempt.bind_error prepared
  · rw [made] at prepared
    refine (Attempt.bind_ok prepared).trans ?_
    dsimp only
    rw [Attempt.disk_bind]
    split <;> rfl

/-- What opening a data directory comes down to. -/
lemma load_eq (dataDir : Path) (writable : Bool) (d : Disk) : load dataDir writable d =
    match makeDirectories dataDir d with
    | (.error e, d) => (.error (.storage (.io e)), d)
    | (.ok (), d) =>
      if ({ dataDir } : Storage).hasLedger d then
        match ({ dataDir } : Storage).load d with
        | .error e => (.error (.storage e), d)
        | .ok wallet =>
          match makeDirectories (keystoreOf dataDir).directory d with
          | (.error e, d) => (.error (.keystore (.io e)), d)
          | (.ok (), d) => (.ok ⟨wallet, { dataDir }, keystoreOf dataDir, writable⟩, d)
      else (.error (.noLedger dataDir), d) := by
  have found := findLedger_eq dataDir d
  rcases made : makeDirectories dataDir d with ⟨_ | _, d₁⟩
  · rw [made] at found
    exact Attempt.bind_error found
  · rw [made] at found
    dsimp only at found ⊢
    by_cases there : ({ dataDir } : Storage).hasLedger d₁ = true
    · rw [if_pos there] at found ⊢
      refine (Attempt.bind_ok found).trans ?_
      rw [Attempt.disk_bind]
      cases ({ dataDir } : Storage).load d₁ with
      | error e => rfl
      | ok wallet =>
        have opened := openKeystore_eq dataDir d₁
        refine (Attempt.ofExcept_ok_bind wallet _).trans ?_
        rcases keys : makeDirectories (keystoreOf dataDir).directory d₁ with ⟨_ | _, d₂⟩
        · rw [keys] at opened
          exact Attempt.bind_error opened
        · rw [keys] at opened
          exact Attempt.bind_ok opened
    · rw [if_neg there] at found ⊢
      exact Attempt.bind_error found

/-- Opening a data directory touches no file, not even the lock file. -/
lemma unwritten_load (dataDir : Path) (writable : Bool) (tidy : d.Tidy) :
    Unwritten d (load dataDir writable d).2 := by
  have made := unwritten_makeDirectories tidy dataDir
  rw [load_eq]
  split
  · rename_i failed
    rw [failed] at made
    exact made
  · rename_i d₁ succeeded
    rw [succeeded] at made
    have keys := unwritten_makeDirectories made.tidy (keystoreOf dataDir).directory
    split
    · split
      · exact made
      · split
        · rename_i failed
          rw [failed] at keys
          exact made.trans keys
        · rename_i made_keys
          rw [made_keys] at keys
          exact made.trans keys
    · exact made

lemma spares_load (dataDir : Path) (writable : Bool) (tidy : d.Tidy) :
    Spares Lock.fileName d (load dataDir writable d).2 :=
  unwritten_load dataDir writable tidy Lock.fileName

/-- A workspace of a data directory that can be written, with a wallet that was read there. -/
structure Opened (dataDir : Path) (s : Workspace) : Prop where
  storage_eq : s.storage = { dataDir }
  keystore_eq : s.keystore = keystoreOf dataDir
  writable : s.writable = true
  read : ∃ text, Wallet.ofText text = .ok s.wallet

/-- No operation has a part in opening a data directory. -/
lemma load_ne_ledger {e : Failure} (failed : (load dataDir true d).1 = .error e)
    (cause : Ledger.Error) : e ≠ .ledger cause := by
  rw [load_eq] at failed
  split at failed
  · cases failed
    nofun
  · split at failed
    · split at failed
      · cases failed
        nofun
      · split at failed
        · cases failed
          nofun
        · cases failed
    · cases failed
      nofun

lemma opened_of_load (opened : (load dataDir true d).1 = .ok s) : Opened dataDir s := by
  rw [load_eq] at opened
  split at opened
  · cases opened
  · split at opened
    · split at opened
      · cases opened
      · rename_i loaded
        split at opened
        · cases opened
        · cases opened
          obtain ⟨text, _, read⟩ := Storage.exists_of_load loaded
          exact ⟨rfl, rfl, rfl, text, read⟩
    · cases opened

/-- A wallet that can be loaded is opened if the directory of the keys can be made. -/
lemma load_of_keys (loads : ({ dataDir } : Storage).load d = .ok w)
    (keys : makeDirectories (keystoreOf dataDir).directory d = (.ok (), d')) :
    load dataDir true d = (.ok ⟨w, { dataDir }, keystoreOf dataDir, true⟩, d') := by
  obtain ⟨made, there⟩ := Storage.made_of_loads loads
  rw [load_eq]
  simp only [made, there, loads, keys, if_true]

/-- A wallet that can be loaded is opened, unless a directory cannot be made. -/
lemma load_of_loads (tidy : d.Tidy) (loads : ({ dataDir } : Storage).load d = .ok w) :
    (∃ cause, (load dataDir true d).1 = .error (.keystore (.io cause))) ∨
      ∃ d', Spares Lock.fileName d d' ∧
        load dataDir true d = (.ok ⟨w, { dataDir }, keystoreOf dataDir, true⟩, d') := by
  have spares := spares_load dataDir true tidy
  rcases keys : makeDirectories (keystoreOf dataDir).directory d with ⟨cause | _, d'⟩
  · obtain ⟨made, there⟩ := Storage.made_of_loads loads
    refine .inl ⟨cause, ?_⟩
    rw [load_eq]
    simp only [made, there, loads, keys, if_true]
  · have opened := load_of_keys loads keys
    rw [opened] at spares
    exact .inr ⟨d', spares, opened⟩

end Workspace

/-! ### With the lock held -/

lemma Lock.whileHeld_eq {ε α : Type} (ps : Processes) (dataDir : Path) (wrap : Storage.Error → ε)
    (work : Attempt ε α) (d : Disk) : whileHeld ps dataDir wrap work d =
    match acquire ps dataDir d with
    | (.error e, d) => (.error (wrap e), d)
    | (.ok (), d) => ((work d).1, release dataDir (work d).2) := by
  rcases taken : acquire ps dataDir d with ⟨e | _, d'⟩
  · exact Attempt.bind_error (Attempt.mapError_of_eq taken wrap)
  · exact Attempt.bind_ok (Attempt.mapError_of_eq taken wrap)

lemma Lock.whileHeld_of_acquire {ε α : Type} {ps : Processes} {wrap : Storage.Error → ε}
    {work : Attempt ε α} {r : Except ε α} {d₁ d₂ : Disk}
    (taken : acquire ps dataDir d = (.ok (), d₁)) (worked : work d₁ = (r, d₂)) :
    whileHeld ps dataDir wrap work d = (r, release dataDir d₂) := by
  simp only [whileHeld_eq, taken, worked]

namespace Command

/-- A command that writes the ledger fails before it works on it, or works on a workspace of the
data directory, with the wallet that could be loaded before. -/
lemma onLedger_cases (env : Environment) (dataDir : Path)
    (work : Workspace → Attempt Failure (List String)) (tidy : d.Tidy) :
    (∃ e d', Spares Lock.fileName d d' ∧ (∀ cause, e ≠ .ledger cause) ∧
      onLedger env dataDir true work d = (.error e, d')) ∨
    ∃ s d₁, Spares Lock.fileName d d₁ ∧ Workspace.Opened dataDir s ∧
      (∀ w, ({ dataDir } : Storage).load d = .ok w → s.wallet = w) ∧
      onLedger env dataDir true work d = ((work s d₁).1, Lock.release dataDir (work s d₁).2) := by
  have taking := Lock.spares_acquire env.processes dataDir tidy
  rw [onLedger, if_pos rfl, Lock.whileHeld_eq]
  rcases taken : Lock.acquire env.processes dataDir d with ⟨e | _, d₁⟩
  · rw [taken] at taking
    exact .inl ⟨.storage e, d₁, taking, nofun, rfl⟩
  · rw [taken] at taking
    have opening := Workspace.spares_load dataDir true taking.tidy
    rcases loaded : Workspace.load dataDir true d₁ with ⟨e | s, d₂⟩
    · rw [loaded] at opening
      refine .inl ⟨e, Lock.release dataDir d₂, ?_, ?_, ?_⟩
      · exact (taking.trans opening).trans (Lock.spares_release dataDir opening.tidy)
      · exact Workspace.load_ne_ledger (congrArg Prod.fst loaded)
      · dsimp only
        rw [Attempt.bind_error loaded]
    · rw [loaded] at opening
      refine .inr ⟨s, d₂, taking.trans opening, ?_, fun w loads => ?_, ?_⟩
      · exact Workspace.opened_of_load (congrArg Prod.fst loaded)
      · rcases Workspace.load_of_loads taking.tidy (taking.load_eq_ok loads) with
          ⟨cause, failed⟩ | ⟨d₃, _, opened⟩
        · rw [loaded] at failed
          cases failed
        · rw [loaded] at opened
          cases opened
          rfl
      · dsimp only
        rw [Attempt.bind_ok loaded]

/-- If the lock is free and the ledger can be loaded, a command works on the wallet in it, unless a
file operation fails before that. -/
lemma onLedger_of_loads (work : Workspace → Attempt Failure (List String)) (tidy : d.Tidy)
    (free : Lock.IsFree env.processes dataDir d)
    (loads : ({ dataDir } : Storage).load d = .ok w) :
    (∃ cause, (onLedger env dataDir true work d).1 = .error (.storage (.io cause))) ∨
    (∃ cause, (onLedger env dataDir true work d).1 = .error (.keystore (.io cause))) ∨
    ∃ d₁, Spares Lock.fileName d d₁ ∧
      let s : Workspace := ⟨w, { dataDir }, Workspace.keystoreOf dataDir, true⟩
      onLedger env dataDir true work d = ((work s d₁).1, Lock.release dataDir (work s d₁).2) := by
  have taking := Lock.spares_acquire env.processes dataDir tidy
  rw [onLedger, if_pos rfl, Lock.whileHeld_eq]
  obtain ⟨made, _⟩ := Storage.made_of_loads loads
  have acquired := Lock.acquire_of_isFree tidy made free
  rcases taken : Lock.acquire env.processes dataDir d with ⟨r, d₁⟩
  rw [taken] at taking acquired
  rcases acquired with rfl | ⟨cause, rfl⟩
  · rcases Workspace.load_of_loads taking.tidy (taking.load_eq_ok loads) with
      ⟨cause, failed⟩ | ⟨d₂, opening, opened⟩
    · refine .inr (.inl ⟨cause, ?_⟩)
      rcases loaded : Workspace.load dataDir true d₁ with ⟨r, d₂⟩
      rw [loaded] at failed
      subst failed
      dsimp only
      rw [Attempt.bind_error loaded]
    · refine .inr (.inr ⟨d₂, taking.trans opening, ?_⟩)
      dsimp only
      rw [Attempt.bind_ok opened]
  · exact .inl ⟨cause, rfl⟩

/-- Work on a ledger that changes nothing by itself touches no file without the lock. -/
lemma unwritten_onLedger (env : Environment) (tidy : d.Tidy) (idle : ∀ s d, (work s d).2 = d) :
    Unwritten d (onLedger env dataDir false work d).2 := by
  have opening := Workspace.unwritten_load dataDir false tidy
  rw [onLedger, if_neg Bool.false_ne_true]
  rcases loaded : Workspace.load dataDir false d with ⟨e | s, d₁⟩
  · rw [loaded] at opening
    rw [Attempt.bind_error loaded]
    exact opening
  · rw [loaded] at opening
    rw [Attempt.bind_ok loaded, idle]
    exact opening

end Command

end Quorum
