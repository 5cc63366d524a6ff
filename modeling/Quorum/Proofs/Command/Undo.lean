import Quorum.Proofs.Command.Restore

/-!
# Restoring and restoring again

To restore a backup is to save a wallet: the ledger it replaces becomes the latest backup, and all
others move on, whichever was restored. So the latest backup, restored after that, brings back what
was replaced.
-/

namespace Quorum

open Disk (Spares)
open Server (newServer servedOnce)
open Storage (fileText housed)

variable {env : Environment} {dataDir : Path} {d d' : Disk} {w b : Wallet} {index : UInt64}
  {old text : String}

/-! ### Locks that were released -/

/-- A lock that was released is free, whoever held it. -/
lemma Lock.isFree_release (ps : Processes) (dataDir : Path) (tidy : d.Tidy) :
    IsFree ps dataDir (release dataDir d) := by
  have unread (text : String) : (release dataDir d).read (path dataDir) ≠ .ok text := by
    unfold release
    cases removed : d.remove (path dataDir) with
    | ok d' =>
      intro read
      have there : d'.exists? (path dataDir) = true := Disk.exists?_of_read read
      rw [exists?_of_remove tidy removed] at there
      cases there
    | error e =>
      -- a file that can be read can be removed
      intro read
      obtain ⟨s, found⟩ := Disk.read_eq_ok_iff.mp read
      have found : d.findFile (path dataDir) = .ok (s, text) := found
      rw [Disk.remove, found] at removed
      cases removed
  intro pid held
  unfold holder? at held
  split at held
  · rename_i text read
    exact absurd read (unread text)
  · cases held

namespace Command

/-! ### One restoration -/

/-- No file operation fails when the command is run. -/
structure Unfailing (env : Environment) (dataDir : Path) (d : Disk) (c : Command) : Prop where
  saved : ∀ cause, (c.run env dataDir d).1 ≠ .error (.storage (.io cause))
  opened : ∀ cause, (c.run env dataDir d).1 ≠ .error (.keystore (.io cause))

/-- A backup of the same wallet is restored if the lock is free and no file operation fails. -/
lemma Unfailing.exists_run (works : Unfailing env dataDir d (.restore index)) (tidy : d.Tidy)
    (free : Lock.IsFree env.processes dataDir d) (loads : ({ dataDir } : Storage).load d = .ok w)
    (loaded : ({ dataDir } : Storage).loadBackup index.toNat d = .ok b)
    (same : b.address = w.address) :
    ∃ lines d₁ d₂, Spares Lock.fileName d d₁ ∧ ({ dataDir } : Storage).save b d₁ = (.ok (), d₂) ∧
      (Command.restore index).run env dataDir d = (.ok lines, Lock.release dataDir d₂) := by
  have all_saved := works.saved
  have all_opened := works.opened
  have run_eq : (Command.restore index).run env dataDir d
      = onLedger env dataDir true (fun s => restoreBackup s index.toNat) d := rfl
  rw [run_eq] at all_saved all_opened ⊢
  rcases onLedger_of_loads (fun s => restoreBackup s index.toNat) tidy free loads with
    ⟨cause, failed⟩ | ⟨cause, failed⟩ | ⟨d₁, opening, done⟩
  · exact absurd failed (all_saved cause)
  · exact absurd failed (all_opened cause)
  · let s : Workspace := ⟨w, { dataDir }, Workspace.keystoreOf dataDir, true⟩
    have writable : s.writable = true := rfl
    have loaded : s.storage.loadBackup index.toNat d₁ = .ok b :=
      (opening.loadBackup_eq_ok_iff loads).mpr loaded
    have restored := restoreBackup_eq loaded same
    rcases Workspace.save_cases s.storage b d₁ with ⟨d₂, saved⟩ | ⟨cause, d₂, failed⟩
    · rw [Attempt.bind_ok (Workspace.save_of_saved writable saved)] at restored
      rw [done]
      exact ⟨_, d₁, d₂, opening, saved, by rw [restored]; rfl⟩
    · rw [Attempt.bind_error (Workspace.save_of_saved writable failed)] at restored
      refine absurd ?_ (all_saved cause)
      rw [done]
      exact congrArg Prod.fst restored

/-- The backups after a restoration: the old ledger file, and then those before, in their order. -/
structure Succeeds (dataDir : Path) (d d' : Disk) : Prop where
  latest : ∀ old, d.read ({ dataDir } : Storage).ledgerPath = .ok old →
    d'.read (({ dataDir } : Storage).backupPath 0) = .ok old
  next : ∀ i, i + 1 < ({ dataDir } : Storage).maxBackups → ∀ text,
    d'.read (({ dataDir } : Storage).backupPath (i + 1)) = .ok text ↔
      d.read (({ dataDir } : Storage).backupPath i) = .ok text

lemma succeeds_of_save {d₁ d₂ : Disk} (unshared : d.Unshared)
    (read : d.read ({ dataDir } : Storage).ledgerPath = .ok old)
    (opening : Spares Lock.fileName d d₁) (saved : ({ dataDir } : Storage).save b d₁ = (.ok (), d₂)) :
    Succeeds dataDir d (Lock.release dataDir d₂) ∧ (Lock.release dataDir d₂).Unshared := by
  have read₁ := opening.untouched.ledger old read
  obtain ⟨read₂, tidy₂⟩ := Storage.read_of_saved opening.tidy saved
  have closing := Lock.spares_release dataDir tidy₂
  have done : (({ dataDir } : Storage).saveWith none b d₁) = (.ok (), d₂) := saved
  obtain ⟨rotates, _, unshared₂⟩ := Storage.rotates_of_save opening.tidy (opening.unshared unshared)
    (congrArg Prod.fst done)
  rw [done] at rotates unshared₂
  have rotates := rotates ⟨rfl, Nat.succ_pos 4, Storage.hasLedger_of_read read₁⟩
  refine ⟨⟨fun old read => ?_, fun i low text => ?_⟩, closing.unshared unshared₂⟩
  · rw [closing.read_backup_eq_ok_iff read₂]
    exact Storage.read_backup_of_save opening.tidy (opening.unshared unshared)
      (opening.untouched.ledger old read) saved
  · rw [closing.read_backup_eq_ok_iff read₂, ← opening.read_backup_eq_ok_iff read,
      (housed dataDir).read_backupPath, (housed dataDir).read_backupPath, rotates.next i low]

/-- After a backup of the same wallet was restored it is loaded, the old ledger file is the latest
backup, to the byte, and each of the others has become the next one. If the latest backup is
restored then, the wallet is loaded again that was there before. -/
theorem restore_undoes_restore (tidy : d.Tidy) (unshared : d.Unshared)
    (free : Lock.IsFree env.processes dataDir d) (loads : ({ dataDir } : Storage).load d = .ok w)
    (loaded : ({ dataDir } : Storage).loadBackup index.toNat d = .ok b)
    (same : b.address = w.address) (works : Unfailing env dataDir d (.restore index)) :
    ∃ lines d', (Command.restore index).run env dataDir d = (.ok lines, d') ∧
      ({ dataDir } : Storage).load d' = .ok b ∧ Succeeds dataDir d d' ∧
      ∀ env', Unfailing env' dataDir d' (.restore 0) →
        ∃ lines' d'', (Command.restore 0).run env' dataDir d' = (.ok lines', d'') ∧
          ({ dataDir } : Storage).load d'' = .ok w ∧ Succeeds dataDir d' d'' := by
  obtain ⟨old, read, accepted⟩ := Storage.exists_of_load loads
  obtain ⟨lines, d₁, d₂, opening, saved, run⟩ := works.exists_run tidy free loads loaded same
  obtain ⟨succeeds, unshared'⟩ := succeeds_of_save unshared read opening saved
  obtain ⟨b', loaded', _, tidy', loads'⟩ := exists_of_restore tidy loads (congrArg Prod.fst run)
  obtain rfl : b = b' := Except.ok.inj (loaded.symm.trans loaded')
  rw [run] at tidy' loads'
  refine ⟨lines, _, run, loads', succeeds, fun env' works' => ?_⟩
  -- the latest backup is the ledger that was replaced
  have latest : ({ dataDir } : Storage).loadBackup (0 : UInt64).toNat (Lock.release dataDir d₂)
      = .ok w := by
    rw [UInt64.toNat_zero, Storage.loadBackup_of_read (succeeds.latest old read), accepted]
    rfl
  have tidy₂ := (Storage.read_of_saved opening.tidy saved).2
  have free' : Lock.IsFree env'.processes dataDir (Lock.release dataDir d₂) :=
    Lock.isFree_release _ dataDir tidy₂
  obtain ⟨old', read', _⟩ := Storage.exists_of_load loads'
  obtain ⟨lines', d₁', d₂', opening', saved', run'⟩ :=
    works'.exists_run tidy' free' loads' latest same.symm
  obtain ⟨succeeds', _⟩ := succeeds_of_save unshared' read' opening' saved'
  obtain ⟨w', loaded'', _, _, loads''⟩ := exists_of_restore tidy' loads' (congrArg Prod.fst run')
  obtain rfl : w = w' := Except.ok.inj (latest.symm.trans loaded'')
  rw [run'] at loads''
  exact ⟨lines', _, run', loads'', succeeds'⟩

/-! ### A wallet that comes back -/

lemma Unfailing.of_run {lines : List String} {c : Command}
    (run : c.run env dataDir d = (.ok lines, d')) : Unfailing env dataDir d c where
  saved _ failed := by
    rw [run] at failed
    cases failed
  opened _ failed := by
    rw [run] at failed
    cases failed

lemma eq_of_isOk {ε : Type} {out : Except ε Unit × Disk} (ok : out.1.isOk = true) :
    out = (.ok (), out.2) := by
  obtain ⟨_ | _, d⟩ := out
  · cases ok
  · rfl

/-- The disk of the server with the lock held, and with room for keys. -/
def giftedLocked : Disk :=
  lockedTwice (fileText gifted.1.wallet) (fileText servedOnce.1.wallet) (fileText newServer.wallet)

/-- The disk after the oldest backup was restored. -/
def giftedBefore : Disk :=
  Lock.release "data" (({ dataDir := "data" } : Storage).save newServer.wallet giftedLocked).2

/-- The same disk with the lock held again. -/
def giftedAgain : Disk :=
  (Lock.acquire atWork.processes "data" giftedBefore).2

lemma acquire_giftedBefore :
    (Lock.acquire atWork.processes "data" giftedBefore).1.isOk = true := by
  decide +kernel

lemma makeKeys_giftedAgain :
    makeDirectories (Workspace.keystoreOf "data").directory giftedAgain
      = (.ok (), giftedAgain) := by
  refine makeDirectories_of_isDirectory ?_
  decide +kernel

lemma save_giftedAgain :
    (({ dataDir := "data" } : Storage).save gifted.1.wallet.stored giftedAgain).1.isOk = true := by
  decide +kernel

lemma unshared_savedTwice (text second first : String) :
    (savedTwice text second first).Unshared :=
  Disk.unshared_of_pairwise (by simp [savedTwice])

lemma address_newServer : newServer.wallet.address = gifted.1.wallet.stored.address := by
  rw [Wallet.address_stored, address_gifted]

lemma exists_run_giftedBefore : ∃ lines,
    (Command.restore 1).run atWork "data" gifted.2 = (.ok lines, giftedBefore) := by
  have loads := load_gifted
  have loaded : ({ dataDir := "data" } : Storage).loadBackup (1 : UInt64).toNat gifted.2
      = .ok newServer.wallet := loadBackup_oldest
  have saved := save_lockedTwice (fileText gifted.1.wallet) (fileText servedOnce.1.wallet)
    (fileText newServer.wallet) newServer.wallet
  rw [disk_gifted] at loads loaded ⊢
  exact run_restore_of_saved tidy_savedTwice loads loaded address_newServer
    (acquire_savedTwice _ _ _) (makeKeys_heldTwice _ _ _) (Prod.ext saved rfl)

/-- The oldest backup is restored, and then the wallet that was there. -/
theorem gifted_wallet_comes_back : gifted.2.Tidy ∧ gifted.2.Unshared ∧
    Lock.IsFree atWork.processes "data" gifted.2 ∧
    ({ dataDir := "data" } : Storage).load gifted.2 = .ok gifted.1.wallet.stored ∧
    ({ dataDir := "data" } : Storage).loadBackup 1 gifted.2 = .ok newServer.wallet ∧
    ∃ lines d' lines' d'',
      (Command.restore 1).run atWork "data" gifted.2 = (.ok lines, d') ∧
      ({ dataDir := "data" } : Storage).load d' = .ok newServer.wallet ∧
      (Command.restore 0).run atWork "data" d' = (.ok lines', d'') ∧
      ({ dataDir := "data" } : Storage).load d'' = .ok gifted.1.wallet.stored := by
  have tidy : gifted.2.Tidy := by
    rw [disk_gifted]
    exact tidy_savedTwice
  have unshared : gifted.2.Unshared := by
    rw [disk_gifted]
    exact unshared_savedTwice _ _ _
  have free : Lock.IsFree atWork.processes "data" gifted.2 := by
    rw [disk_gifted]
    intro pid held
    cases (show none = some pid from held)
  have loaded : ({ dataDir := "data" } : Storage).loadBackup (1 : UInt64).toNat gifted.2
      = .ok newServer.wallet := loadBackup_oldest
  obtain ⟨lines, run⟩ := exists_run_giftedBefore
  have works : Unfailing atWork "data" gifted.2 (.restore 1) := .of_run run
  obtain ⟨_, d', run', loads', succeeds, again⟩ :=
    restore_undoes_restore tidy unshared free load_gifted loaded address_newServer works
  obtain rfl : d' = giftedBefore := congrArg Prod.snd (run'.symm.trans run)
  have tidy' : giftedBefore.Tidy := by
    obtain ⟨_, _, _, tidy', _⟩ := exists_of_restore tidy load_gifted (congrArg Prod.fst run)
    rwa [run] at tidy'
  obtain ⟨old, read, accepted⟩ := Storage.exists_of_load load_gifted
  have latest : ({ dataDir := "data" } : Storage).loadBackup (0 : UInt64).toNat giftedBefore
      = .ok gifted.1.wallet.stored := by
    rw [UInt64.toNat_zero, Storage.loadBackup_of_read (succeeds.latest old read), accepted]
    rfl
  obtain ⟨_, again_run⟩ := run_restore_of_saved tidy' loads' latest address_newServer.symm
    (eq_of_isOk acquire_giftedBefore) makeKeys_giftedAgain (eq_of_isOk save_giftedAgain)
  obtain ⟨lines', d'', run'', loads'', _⟩ := again atWork (.of_run again_run)
  exact ⟨tidy, unshared, free, load_gifted, loadBackup_oldest, lines, _, lines', d'', run, loads',
    run'', loads''⟩

end Command

end Quorum
