import Quorum.Proofs.Command.Key
import Quorum.Proofs.Lock.Release
import Quorum.Proofs.Storage.Home

/-!
# Commands and the lock

Every command that writes the ledger takes the lock before it looks at anything, and gives it back
in the end, whatever it came to in between. So it does nothing at all where a living process holds
the lock, and leaves no lock file where none does. The commands that only look at the ledger take no
lock and touch no file.
-/

namespace Quorum

open Command (Failure)
open Disk (Unwritten)
open Lock (Released Taken)
open Storage (backupName ledgerName)

variable {env : Environment} {dataDir : Path} {before d d' : Disk} {c : Command} {s : Slot}
  {w : Wallet}

/-- A save leaves the lock file where its path leads, if it succeeds or no name of a backup is in
the path of the data directory. -/
lemma Lock.Taken.save (h : Taken dataDir s before d) (tidy : d.Tidy) (unshared : d.Unshared)
    (sound : (({ dataDir } : Storage).save w d).1 = .ok () ∨
      ∀ i, backupName ledgerName i ∉ dataDir.parts) :
    Taken dataDir s before (({ dataDir } : Storage).save w d).2 := by
  obtain ⟨n, base, slot_eq, fits⟩ := (Disk.locate_join_eq_ok_iff plain_fileName).mp h.located
  have base' := Storage.base_of_save tidy unshared base sound
  obtain ⟨_, kept⟩ := Storage.file?_of_save dataDir w tidy
  have apart {t : Slot} (named : t.name = fileName) : t.name.toList.head? ≠ some 'l' := by
    rw [named]
    decide
  have named : s.name = fileName := by
    cases slot_eq
    rfl
  obtain ⟨text, there⟩ := h.there
  refine ⟨?_, ⟨text, (kept s (apart named)).trans there⟩, fun t text other named there => ?_⟩
  · exact (Disk.locate_join_eq_ok_iff plain_fileName).mpr ⟨n, base', slot_eq, fits⟩
  · exact h.others t text other named ((kept t (apart named)).symm.trans there)

namespace Command

/-- The commands that take the lock: those that write the ledger, a new wallet only if its owners
are accepted. -/
inductive Locks : Command → Prop
  | init {owners : List String} {required : UInt64} {force : Bool} {set : OwnerSet}
      (accepted : readOwners owners required = .ok set) : Locks (.init owners required force)
  | operates {c : Command} (h : c.Operates) : Locks c
  | restore {backup : UInt64} : Locks (.restore backup)

/-! ### What is done while the lock is held -/

/-- Directories may be made, and then at most one wallet is saved; nothing else happens to the disk,
and the failure of a file operation in the save is reported. -/
inductive Labours (dataDir : Path) (d : Disk) : Except Failure (List String) × Disk → Prop
  | idle {r : Except Failure (List String)} {d' : Disk} (opened : Unwritten d d') :
      Labours dataDir d (r, d')
  | saves {r : Except Failure (List String)} {w : Wallet} {out : Except Storage.Error Unit}
      {d' d'' : Disk} (opened : Unwritten d d')
      (saved : ({ dataDir } : Storage).save w d' = (out, d''))
      (reported : ∀ cause, out = .error (.io cause) → r = .error (.storage (.io cause))) :
      Labours dataDir d (r, d'')

namespace Labours

variable {out : Except Failure (List String) × Disk}

lemma after (h : Labours dataDir d' out) (opened : Unwritten d d') : Labours dataDir d out := by
  cases h with
  | idle more => exact .idle (opened.trans more)
  | saves more saved reported => exact .saves (opened.trans more) saved reported

lemma of_saved {r : Except Failure (List String)} (tidy : d.Tidy)
    (saved : ({ dataDir } : Storage).save w d = (.ok (), d')) : Labours dataDir d (r, d') :=
  .saves (.refl tidy) saved nofun

lemma of_unsaved {cause : IoError} (tidy : d.Tidy)
    (failed : ({ dataDir } : Storage).save w d = (.error (.io cause), d')) :
    Labours dataDir d (.error (.storage (.io cause)), d') := by
  refine .saves (.refl tidy) failed fun cause' same => ?_
  cases same
  rfl

/-- Work on a ledger begins with opening its directory. -/
lemma of_load {work : Workspace → Attempt Failure (List String)} (tidy : d.Tidy)
    (labours : ∀ s d, Workspace.Opened dataDir s → d.Tidy → Labours dataDir d (work s d)) :
    Labours dataDir d ((Workspace.load dataDir true >>= work) d) := by
  have opening := Workspace.unwritten_load dataDir true tidy
  rcases loaded : Workspace.load dataDir true d with ⟨e | s, d₁⟩
  · rw [loaded] at opening
    rw [Attempt.bind_error loaded]
    exact .idle opening
  · rw [loaded] at opening
    rw [Attempt.bind_ok loaded]
    have opened := Workspace.opened_of_load (congrArg Prod.fst loaded)
    exact (labours s d₁ opened opening.tidy).after opening

lemma of_works {s : Workspace} {now : Time.Instant} {op? : Option Ledger.Operation}
    (opened : Workspace.Opened dataDir s) (tidy : d.Tidy) (worked : Works s now d op? out) :
    Labours dataDir d out := by
  cases worked with
  | unread => exact .idle (.refl tidy)
  | keyless => exact .idle (.refl tidy)
  | refused => exact .idle (.refl tidy)
  | unsaved failed => exact .of_unsaved tidy (opened.storage_eq ▸ failed)
  | failed _ _ saved => exact .of_saved tidy (opened.storage_eq ▸ saved)
  | done _ saved => exact .of_saved tidy (opened.storage_eq ▸ saved)

lemma of_restore {s : Workspace} (opened : Workspace.Opened dataDir s) (tidy : d.Tidy)
    (backup : Nat) : Labours dataDir d (restoreBackup s backup d) := by
  rcases restoreBackup_cases opened.writable backup d with
    ⟨_, ended⟩ | ⟨_, _, d', failed, ended⟩ | ⟨_, _, d', _, _, saved, ended⟩
  · rw [ended]
    exact .idle (.refl tidy)
  · rw [ended]
    exact .of_unsaved tidy (opened.storage_eq ▸ failed)
  · rw [ended]
    exact .of_saved tidy (opened.storage_eq ▸ saved)

end Labours

/-- A new wallet whose owners are accepted is made with the lock held. -/
lemma exists_body_of_init {owners : List String} {required : UInt64} {set : OwnerSet}
    (accepted : readOwners owners required = .ok set) (env : Environment) (dataDir : Path)
    (force : Bool) : ∃ body : Attempt Failure (List String),
    (∀ d, createWallet env dataDir owners required force d
      = Lock.whileHeld env.processes dataDir .storage body d) ∧
    ∀ d, d.Tidy → Labours dataDir d (body d) := by
  -- once the owners are read, all that is left of the command is done with the lock held
  refine ⟨_, fun d => (congrArg (fun read => (Attempt.ofExcept read >>= _) d) accepted).trans
    (Attempt.ofExcept_ok_bind set _), fun d tidy => ?_⟩
  have making := unwritten_makeDirectories tidy dataDir
  have prepared := Workspace.prepare_eq dataDir d
  rcases made : makeDirectories dataDir d with ⟨cause | _, d₁⟩
  · rw [made] at making prepared
    rw [Attempt.bind_error prepared]
    exact .idle making
  · rw [made] at making prepared
    rw [Attempt.bind_ok prepared, Attempt.disk_bind]
    refine Labours.after ?_ making
    split
    · exact .idle (.refl making.tidy)
    · rcases Workspace.save_cases { dataDir } (.create set) d₁ with
        ⟨d₂, saved⟩ | ⟨cause, d₂, failed⟩
      · rw [Attempt.bind_ok (Attempt.mapError_of_eq saved Failure.storage)]
        exact .of_saved making.tidy saved
      · rw [Attempt.bind_error (Attempt.mapError_of_eq failed Failure.storage)]
        exact .of_unsaved making.tidy failed

/-- Whatever such a command does, it does with the lock held. -/
lemma Locks.exists_body (h : c.Locks) (env : Environment) (dataDir : Path) :
    ∃ body : Attempt Failure (List String),
      (∀ d, c.run env dataDir d = Lock.whileHeld env.processes dataDir .storage body d) ∧
      ∀ d, d.Tidy → Labours dataDir d (body d) := by
  cases h with
  | init accepted => exact exists_body_of_init accepted env dataDir _
  | operates h =>
    obtain ⟨work, run_eq, works⟩ := h.exists_work env dataDir
    refine ⟨Workspace.load dataDir true >>= work, fun d => ?_, fun d tidy => ?_⟩
    · rw [run_eq, onLedger, if_pos rfl]
    · exact .of_load tidy fun s d opened tidy => .of_works opened tidy (works s d opened.writable)
  | @restore backup =>
    refine ⟨Workspace.load dataDir true >>= fun s => restoreBackup s backup.toNat, fun d => rfl,
      fun d tidy => ?_⟩
    exact .of_load tidy fun s d opened tidy => .of_restore opened tidy backup.toNat

/-! ### Holding the lock, and giving it back -/

/-- Where a living process holds the lock, nothing is done. -/
lemma Locks.run_of_held (h : c.Locks) {pid : ProcessId} (held : Lock.holder? dataDir d = some pid)
    (alive : env.processes.isAlive pid = true) :
    c.run env dataDir d = (.error (.storage (.locked pid dataDir)), d) := by
  obtain ⟨body, run_eq, _⟩ := h.exists_body env dataDir
  rw [run_eq, Lock.whileHeld_eq, Lock.acquire_of_alive held alive]

/-- What is done while the lock is held leaves the lock file in its place. -/
lemma Labours.taken {r : Except Failure (List String)} (h : Labours dataDir d (r, d'))
    (taken : Taken dataDir s before d) (unshared : d.Unshared)
    (sound : (∀ cause, r ≠ .error (.storage (.io cause))) ∨
      ∀ i, backupName ledgerName i ∉ dataDir.parts) :
    Taken dataDir s before d' ∧ d'.Tidy := by
  cases h with
  | idle opened => exact ⟨taken.of_unwritten opened, opened.tidy⟩
  | @saves _ w out d₁ _ opened saved reported =>
    have sound : (({ dataDir } : Storage).save w d₁).1 = .ok () ∨
        ∀ i, backupName ledgerName i ∉ dataDir.parts := by
      refine sound.imp_left fun fine => ?_
      rcases Workspace.save_cases { dataDir } w d₁ with ⟨_, done⟩ | ⟨cause, _, failed⟩
      · rw [done]
      · rw [failed] at saved
        cases saved
        exact absurd (reported cause rfl) (fine cause)
    have taken := (taken.of_unwritten opened).save opened.tidy (opened.unshared unshared) sound
    have tidy := (Storage.file?_of_save dataDir w opened.tidy).1
    rw [saved] at taken tidy
    exact ⟨taken, tidy⟩

/-- Where no living process holds the lock, it is given back. -/
lemma Locks.released (h : c.Locks) (tidy : d.Tidy) (unshared : d.Unshared)
    (free : Lock.IsFree env.processes dataDir (makeDirectories dataDir d).2)
    (sound : (∀ cause, (c.run env dataDir d).1 ≠ .error (.storage (.io cause))) ∨
      (makeDirectories dataDir d).1 = .ok () ∧ ∀ i, backupName ledgerName i ∉ dataDir.parts) :
    Released dataDir d (c.run env dataDir d).2 := by
  obtain ⟨body, run_eq, labours⟩ := h.exists_body env dataDir
  rw [run_eq, Lock.whileHeld_eq] at sound ⊢
  have made : (makeDirectories dataDir d).1 = .ok () := by
    rcases sound with fine | ⟨made, _⟩
    · rcases making : makeDirectories dataDir d with ⟨cause | _, d₁⟩
      · simp only [Lock.acquire, making] at fine
        exact absurd rfl (fine cause)
      · rfl
    · exact made
  have taking := Lock.spares_acquire env.processes dataDir tidy
  rcases Lock.acquire_cases tidy made free with ⟨s, d₁, acquired, taken⟩ | ⟨_, d₁, failed, gone⟩
  · rw [acquired] at sound taking ⊢
    obtain ⟨taken, tidy⟩ := (labours d₁ taking.tidy).taken taken (taking.unshared unshared)
      (sound.imp_right And.right)
    exact taken.release tidy
  · rw [failed]
    exact gone

/-! ### Looking at the ledger -/

/-- The commands that only look at the ledger touch no file, locked or not. -/
lemma unwritten_inspection (looks : c.isInspection = true) (env : Environment) (dataDir : Path)
    (tidy : d.Tidy) : Unwritten d (c.run env dataDir d).2 := by
  cases c with
  | describe index =>
    exact unwritten_onLedger env tidy fun s d => snd_describeTransaction s index.toNat d
  | pending => exact unwritten_onLedger env tidy fun _ _ => rfl
  | status => exact unwritten_onLedger env tidy fun _ _ => rfl
  | events => exact unwritten_onLedger env tidy fun _ _ => rfl
  | _ => cases looks

/-- A command that takes the lock does all that it does while it holds it. Where a living process
holds the lock, such a command fails with the number of that process, and the whole disk stays as it
is. The commands that only look at the ledger touch no file anywhere, whoever holds the lock. Where
no living process holds it, no lock file is left after a command that takes the lock, whether it
succeeds or fails, unless a file operation failed; and not even then if the data directory can be
made and no name of a backup is in its path. (The directory that counts is the one that is there
once it was made. If it was missing, nobody holds its lock, unless its path turns back and leads to
another directory then.) -/
theorem lock_given_back (env : Environment) (dataDir : Path) (c : Command) (tidy : d.Tidy)
    (unshared : d.Unshared) :
    (c.Locks → ∃ body : Attempt Failure (List String), ∀ d,
      c.run env dataDir d = Lock.whileHeld env.processes dataDir .storage body d) ∧
    (∀ pid, c.Locks → Lock.holder? dataDir d = some pid → env.processes.isAlive pid = true →
      c.run env dataDir d = (.error (.storage (.locked pid dataDir)), d)) ∧
    (c.isInspection = true →
      (∀ s, (c.run env dataDir d).2.file? s = d.file? s) ∧ d.Leads (c.run env dataDir d).2) ∧
    (c.Locks → Lock.IsFree env.processes dataDir (makeDirectories dataDir d).2 →
      ((∀ cause, (c.run env dataDir d).1 ≠ .error (.storage (.io cause))) ∨
        (makeDirectories dataDir d).1 = .ok () ∧ ∀ i, backupName ledgerName i ∉ dataDir.parts) →
      Released dataDir d (c.run env dataDir d).2) ∧
    (Lock.IsFree env.processes dataDir d →
      (∃ n, d.base dataDir = .ok n) ∨ ".." ∉ dataDir.parts →
      Lock.IsFree env.processes dataDir (makeDirectories dataDir d).2) := by
  refine ⟨fun locks => ?_, fun pid locks held alive => locks.run_of_held held alive,
    fun looks => ?_, fun locks free sound => locks.released tidy unshared free sound,
    fun free known => free.made tidy known⟩
  · obtain ⟨body, run_eq, _⟩ := locks.exists_body env dataDir
    exact ⟨body, run_eq⟩
  · have unwritten := unwritten_inspection looks env dataDir tidy
    exact ⟨unwritten.file?_eq, unwritten.leads⟩

/-! ### A lock that is held, and one that was left behind -/

/-- The disk of the new wallet with a lock file. -/
def diskWithLock (text : String) : Disk :=
  Server.newDisk.put ⟨1, Lock.fileName⟩ (.file text)

/-- A process on a machine where one other process is alive. -/
def besideSeven : Environment :=
  { atWork with processes := ⟨1, fun pid => pid = 7⟩ }

lemma tidy_diskWithLock (text : String) : (diskWithLock text).Tidy :=
  tidy_newDisk.put _ _

lemma unshared_diskWithLock (text : String) : (diskWithLock text).Unshared :=
  Disk.unshared_of_pairwise (by simp [diskWithLock, Server.newDisk, Disk.put, Lock.fileName])

lemma makeDirectories_diskWithLock (text : String) :
    makeDirectories "data" (diskWithLock text) = (.ok (), diskWithLock text) := rfl

lemma holder?_seven : Lock.holder? "data" (diskWithLock " 7\n") = some 7 := by rfl

lemma holder?_eight : Lock.holder? "data" (diskWithLock "8") = some 8 := by rfl

/-- A deposit is refused where the living process holds the lock, and is not where a dead one left
it, of which there is no trace in the end. -/
theorem deposit_beside_seven : funding.Locks ∧ besideSeven.processes.isAlive 7 = true ∧
    besideSeven.processes.isAlive 8 = false ∧
    funding.run besideSeven "data" (diskWithLock " 7\n")
      = (.error (.storage (.locked 7 "data")), diskWithLock " 7\n") ∧
    (∀ s, (Command.status.run besideSeven "data" (diskWithLock " 7\n")).2.file? s
      = (diskWithLock " 7\n").file? s) ∧
    Released "data" (diskWithLock "8") (funding.run besideSeven "data" (diskWithLock "8")).2 := by
  have locks : funding.Locks := .operates .fund
  have dead : besideSeven.processes.isAlive 8 = false := rfl
  obtain ⟨_, refused, _⟩ := lock_given_back besideSeven "data" funding (tidy_diskWithLock " 7\n")
    (unshared_diskWithLock " 7\n")
  obtain ⟨_, _, looks, _⟩ := lock_given_back besideSeven "data" .status (tidy_diskWithLock " 7\n")
    (unshared_diskWithLock " 7\n")
  obtain ⟨_, _, _, released, made_free⟩ := lock_given_back besideSeven "data" funding
    (tidy_diskWithLock "8") (unshared_diskWithLock "8")
  have free : Lock.IsFree besideSeven.processes "data" (diskWithLock "8") := by
    intro pid named
    rw [holder?_eight] at named
    cases named
    exact dead
  have parts_eq : Path.parts "data" = ["data"] := by decide
  have other (i : Nat) : backupName ledgerName i ∉ Path.parts "data" := by
    rw [parts_eq, List.mem_singleton]
    intro same
    have chars := congrArg (·.toList.head?) same
    simp [Storage.toList_backupName, ledgerName] at chars
  refine ⟨locks, rfl, dead, refused 7 locks holder?_seven rfl, (looks rfl).1, ?_⟩
  refine released locks (made_free free (.inr ?_)) (.inr ⟨?_, other⟩)
  · rw [parts_eq]
    decide
  · rw [makeDirectories_diskWithLock]

/-! ### A lock that is not given back -/

/-- The disk on which the data directory is reached through its first backup, with the lock held. -/
def heldDetour : Disk :=
  Storage.detourDisk.put ⟨1, Lock.fileName⟩ (.file "1")

/-- The same disk after that backup has moved on. -/
def movedDetour : Disk :=
  (heldDetour.drop ⟨1, "ledger.json.backup.0"⟩).put ⟨1, "ledger.json.backup.1"⟩ (.directory 2)

lemma acquire_detour : Lock.acquire atWork.processes Storage.detour.dataDir Storage.detourDisk
    = (.ok (), heldDetour) := by rfl

lemma makeDirectories_heldDetour :
    makeDirectories Storage.detour.dataDir heldDetour = (.ok (), heldDetour) := by rfl

lemma save_heldDetour (w : Wallet) : ({ dataDir := Storage.detour.dataDir } : Storage).save w
    heldDetour = (.error (.io .notFound), movedDetour) := by rfl

lemma release_movedDetour :
    Lock.release Storage.detour.dataDir movedDetour = movedDetour := by rfl

/-- When a save has failed because it moved a directory through which the data directory is reached,
the lock file is not found any more, and stays. -/
theorem detour_keeps_lock {owners : List String} {required : UInt64} {set : OwnerSet}
    (accepted : readOwners owners required = .ok set) :
    (Command.init owners required true).run atWork Storage.detour.dataDir Storage.detourDisk
      = (.error (.storage (.io .notFound)), movedDetour) ∧
    movedDetour.file? ⟨1, Lock.fileName⟩ = some "1" := by
  refine ⟨?_, rfl⟩
  have run_eq : (Command.init owners required true).run atWork Storage.detour.dataDir
      Storage.detourDisk = createWallet atWork Storage.detour.dataDir owners required true
        Storage.detourDisk := rfl
  have prepared := Workspace.prepare_eq Storage.detour.dataDir heldDetour
  rw [makeDirectories_heldDetour] at prepared
  rw [run_eq, createWallet, accepted, ← release_movedDetour]
  refine (Attempt.ofExcept_ok_bind set _).trans (Lock.whileHeld_of_acquire acquire_detour ?_)
  refine (Attempt.bind_ok prepared).trans ?_
  dsimp only
  rw [Attempt.disk_bind, Bool.not_true, Bool.and_false, if_neg Bool.false_ne_true]
  exact Attempt.bind_error (Attempt.mapError_of_eq (save_heldDetour _) Failure.storage)

end Command

end Quorum
