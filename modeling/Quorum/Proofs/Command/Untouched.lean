import Quorum.Proofs.Command.Opening

/-!
# Commands that leave all files alone

A command that writes the ledger either saves it or leaves every file but the lock file as it was.
It saves nothing if it fails, unless a call failed that is kept in the ledger, or a file operation.
-/

namespace Quorum

open Command (Failure)
open Disk (Spares)

variable {env : Environment} {dataDir : Path} {d d' : Disk} {c : Command} {s : Workspace}
  {owners : List String} {required : UInt64} {force : Bool}

/-! ### Untouched files -/

/-- All files but lock files are as they were, and the ledger file and the backups of a data
directory are read as before. -/
structure Untouched (dataDir : Path) (d d' : Disk) : Prop where
  files : ∀ s, s.name ≠ Lock.fileName → d'.file? s = d.file? s
  ledger : ∀ text, d.read ({ dataDir } : Storage).ledgerPath = .ok text →
    d'.read ({ dataDir } : Storage).ledgerPath = .ok text
  backups : ∀ index text, d.read (({ dataDir } : Storage).backupPath index) = .ok text →
    d'.read (({ dataDir } : Storage).backupPath index) = .ok text

lemma Disk.Spares.untouched (h : Spares Lock.fileName d d') : Untouched dataDir d d' where
  files := h.file?_eq
  ledger text read := by
    refine h.read_eq_ok ?_ read
    rw [Storage.getLast?_parts_ledgerPath]
    decide
  backups index text read := by
    refine h.read_eq_ok ?_ read
    rw [Storage.getLast?_parts_backupPath, ne_eq, Option.some.injEq]
    exact Storage.backupName_ne_lock index

namespace Command

/-! ### Making a wallet -/

lemma createWallet_cases (env : Environment) (dataDir : Path) (owners : List String)
    (required : UInt64) (force : Bool) (tidy : d.Tidy) :
    (∃ e d', Spares Lock.fileName d d' ∧
      createWallet env dataDir owners required force d = (.error e, d')) ∨
    (∃ lines d₁, Spares Lock.fileName d d₁ ∧ force = false ∧
      ({ dataDir } : Storage).hasLedger d₁ = true ∧
      createWallet env dataDir owners required force d = (.ok lines, Lock.release dataDir d₁)) ∨
    ∃ w d₁, Spares Lock.fileName d d₁ ∧
      (force = false → ({ dataDir } : Storage).hasLedger d₁ = false) ∧
      ((∃ cause d₂, ({ dataDir } : Storage).save w d₁ = (.error (.io cause), d₂) ∧
        createWallet env dataDir owners required force d
          = (.error (.storage (.io cause)), Lock.release dataDir d₂)) ∨
      ∃ lines d₂, ({ dataDir } : Storage).save w d₁ = (.ok (), d₂) ∧
        createWallet env dataDir owners required force d
          = (.ok lines, Lock.release dataDir d₂)) := by
  unfold createWallet
  cases readOwners owners required with
  | error e => exact .inl ⟨e, d, .refl tidy, rfl⟩
  | ok owners =>
    rw [Attempt.ofExcept_ok_bind, Lock.whileHeld_eq]
    have taking := Lock.spares_acquire env.processes dataDir tidy
    rcases taken : Lock.acquire env.processes dataDir d with ⟨e | _, d₁⟩
    · rw [taken] at taking
      exact .inl ⟨_, d₁, taking, rfl⟩
    · rw [taken] at taking
      dsimp only
      have making : Spares Lock.fileName d₁ (makeDirectories dataDir d₁).2 :=
        spares_makeDirectories taking.tidy _
      have prepared := Workspace.prepare_eq dataDir d₁
      rcases made : makeDirectories dataDir d₁ with ⟨cause | _, d₂⟩
      · rw [made] at making prepared
        rw [Attempt.bind_error prepared]
        have released := Lock.spares_release dataDir making.tidy
        exact .inl ⟨_, _, (taking.trans making).trans released, rfl⟩
      · rw [made] at making prepared
        rw [Attempt.bind_ok prepared, Attempt.disk_bind]
        dsimp only
        have spares := taking.trans making
        by_cases declines : (({ dataDir } : Storage).hasLedger d₂ && !force) = true
        · rw [if_pos declines]
          simp only [Bool.and_eq_true, Bool.not_eq_true'] at declines
          exact .inr (.inl ⟨_, d₂, spares, declines.2, declines.1, rfl⟩)
        · rw [if_neg declines]
          have absent (gentle : force = false) : ({ dataDir } : Storage).hasLedger d₂ = false := by
            simpa [gentle] using declines
          refine .inr (.inr ⟨.create owners, d₂, spares, absent, ?_⟩)
          rcases Workspace.save_cases { dataDir } (.create owners) d₂ with
            ⟨d₃, saved⟩ | ⟨cause, d₃, failed⟩
          · have done (lines : List String) :
                ((({ dataDir } : Storage).save (.create owners)).mapError Failure.storage >>=
                  fun _ => pure lines) d₂ = (.ok lines, d₃) :=
              Attempt.bind_ok (Attempt.mapError_of_eq saved Failure.storage)
            exact .inr ⟨_, d₃, saved,
              congrArg (fun out => (out.1, Lock.release dataDir out.2)) (done _)⟩
          · refine .inl ⟨cause, d₃, failed, ?_⟩
            rw [Attempt.bind_error (Attempt.mapError_of_eq failed Failure.storage)]

/-- A new wallet that is made with force has the old ledger as its latest backup. -/
theorem backup_of_createWallet (tidy : d.Tidy) (unshared : d.Unshared) {lines : List String}
    {old : String} (read : d.read ({ dataDir } : Storage).ledgerPath = .ok old)
    (made : (createWallet env dataDir owners required true d).1 = .ok lines) :
    (createWallet env dataDir owners required true d).2.read
      (({ dataDir } : Storage).backupPath 0) = .ok old := by
  rcases createWallet_cases env dataDir owners required true tidy with
    ⟨e, d', _, failed⟩ | ⟨_, _, _, gentle, _⟩ | ⟨w, d₁, spares, _, ⟨cause, d₂, _, failed⟩ |
      ⟨lines, d₂, saved, done⟩⟩
  · rw [failed] at made
    cases made
  · cases gentle
  · rw [failed] at made
    cases made
  · rw [done]
    have kept := Storage.read_backup_of_save spares.tidy (spares.unshared unshared)
      (spares.untouched.ledger old read) saved
    obtain ⟨_, tidy⟩ := Storage.read_of_saved spares.tidy saved
    exact (Lock.spares_release dataDir tidy).untouched.backups 0 old kept

/-! ### Putting a backup in place -/

/-- A backup of the same wallet is saved as it was loaded. -/
lemma restoreBackup_eq {backup : Nat} {restored : Wallet}
    (loaded : s.storage.loadBackup backup d = .ok restored)
    (same : restored.address = s.wallet.address) : restoreBackup s backup d =
      ({ s with wallet := restored }.save >>= fun _ => pure
        [s!"📥 Restored ledger from backup {backup}",
          s!"   Transactions: {restored.ledger.transactions.length}"]) d := by
  unfold restoreBackup
  rw [Attempt.disk_bind, loaded]
  refine (Attempt.ofExcept_ok_bind restored _).trans ?_
  rw [if_neg (not_not.mpr same)]

lemma restoreBackup_cases (writable : s.writable = true) (backup : Nat) (d : Disk) :
    (∃ e, restoreBackup s backup d = (.error e, d)) ∨
    (∃ restored cause d', s.storage.save restored d = (.error (.io cause), d') ∧
      restoreBackup s backup d = (.error (.storage (.io cause)), d')) ∨
    ∃ restored lines d', s.storage.loadBackup backup d = .ok restored ∧
      restored.address = s.wallet.address ∧ s.storage.save restored d = (.ok (), d') ∧
      restoreBackup s backup d = (.ok lines, d') := by
  cases loaded : s.storage.loadBackup backup d with
  | error e =>
    unfold restoreBackup
    rw [Attempt.disk_bind, loaded]
    exact .inl ⟨_, rfl⟩
  | ok restored =>
    by_cases foreign : restored.address ≠ s.wallet.address
    · unfold restoreBackup
      rw [Attempt.disk_bind, loaded]
      refine .inl ⟨.foreignBackup backup restored.address, ?_⟩
      refine (Attempt.ofExcept_ok_bind restored _).trans ?_
      rw [if_pos foreign]
      rfl
    · have same := Decidable.of_not_not foreign
      rw [restoreBackup_eq loaded same]
      rcases Workspace.save_cases s.storage restored d with ⟨d', saved⟩ | ⟨cause, d', failed⟩
      · have saves := Workspace.save_of_saved writable saved
        exact .inr (.inr ⟨restored, _, d', rfl, same, saved, Attempt.bind_ok saves⟩)
      · have saves := Workspace.save_of_saved writable failed
        exact .inr (.inl ⟨restored, cause, d', failed, Attempt.bind_error saves⟩)

/-! ### Failures -/

/-- The commands that write the ledger. -/
inductive Writes : Command → Prop
  | init {owners : List String} {required : UInt64} {force : Bool} :
      Writes (.init owners required force)
  | operates {c : Command} (h : c.Operates) : Writes c
  | restore {backup : UInt64} : Writes (.restore backup)

/-- Neither a call failed, nor a file operation: there was nothing to be saved. -/
structure Failure.Idle (e : Failure) : Prop where
  refused : ∀ index reason, e ≠ .ledger (.executionFailed index reason)
  intact : ∀ cause, e ≠ .storage (.io cause)

/-- On a ledger, work that fails idly leaves files alone if it does so by itself. -/
lemma untouched_of_onLedger (work : Workspace → Attempt Failure (List String)) {e : Failure}
    (tidy : d.Tidy) (failed : (onLedger env dataDir true work d).1 = .error e)
    (idle : ∀ s d, s.writable = true → (work s d).1 = .error e → (work s d).2 = d) :
    Untouched dataDir d (onLedger env dataDir true work d).2 := by
  rcases onLedger_cases env dataDir work tidy with
    ⟨e', d', spares, _, ended⟩ | ⟨s, d₁, spares, opened, _, ended⟩
  · rw [ended]
    exact spares.untouched
  · rw [ended] at failed ⊢
    dsimp only at failed ⊢
    rw [idle s d₁ opened.writable failed]
    exact (spares.trans (Lock.spares_release dataDir spares.tidy)).untouched

end Command

lemma Works.disk_eq {now : Time.Instant} {op? : Option Ledger.Operation}
    {out : Except Failure (List String) × Disk} {e : Failure} (h : Works s now d op? out)
    (failed : out.1 = .error e) (idle : e.Idle) : out.2 = d := by
  cases h with
  | unread => rfl
  | keyless => rfl
  | refused => rfl
  | unsaved =>
    cases failed
    exact absurd rfl (idle.intact _)
  | @failed _ e _ answer tried =>
    cases failed
    cases e with
    | executionFailed index reason => exact absurd rfl (idle.refused index reason)
    | _ => cases tried
  | done => cases failed

namespace Command

/-- Whenever a command that writes the ledger fails, but for a failed call or a failed save, all
files are as they were. -/
theorem untouched_of_failure (tidy : d.Tidy) (writes : c.Writes) {e : Failure}
    (failed : (c.run env dataDir d).1 = .error e) (idle : e.Idle) :
    Untouched dataDir d (c.run env dataDir d).2 := by
  cases writes with
  | @init owners required force =>
    have run_eq : (Command.init owners required force).run env dataDir d
        = createWallet env dataDir owners required force d := rfl
    rw [run_eq] at failed ⊢
    rcases createWallet_cases env dataDir owners required force tidy with
      ⟨e', d', spares, ended⟩ | ⟨lines, d₁, _, _, _, ended⟩ |
        ⟨w, d₁, _, _, ⟨cause, d₂, _, ended⟩ | ⟨lines, d₂, _, ended⟩⟩
    · rw [ended]
      exact spares.untouched
    · rw [ended] at failed
      cases failed
    · rw [ended] at failed
      cases failed
      exact absurd rfl (idle.intact cause)
    · rw [ended] at failed
      cases failed
  | operates h =>
    obtain ⟨work, run_eq, works⟩ := h.exists_work env dataDir
    rw [run_eq] at failed ⊢
    exact untouched_of_onLedger work tidy failed fun s d writable failed =>
      (works s d writable).disk_eq failed idle
  | @restore backup =>
    refine untouched_of_onLedger (fun s => restoreBackup s backup.toNat) tidy failed
      fun s d writable failed => ?_
    rcases restoreBackup_cases writable backup.toNat d with
      ⟨e', ended⟩ | ⟨_, cause, d', _, ended⟩ | ⟨_, lines, d', _, _, _, ended⟩
    · rw [ended]
    · rw [ended] at failed
      cases failed
      exact absurd rfl (idle.intact cause)
    · rw [ended] at failed
      cases failed

/-- Without force, a ledger that is there is left alone. -/
theorem untouched_of_present (tidy : d.Tidy)
    (present : ({ dataDir } : Storage).hasLedger d = true) :
    Untouched dataDir d (createWallet env dataDir owners required false d).2 := by
  rcases createWallet_cases env dataDir owners required false tidy with
    ⟨e, d', spares, ended⟩ | ⟨lines, d₁, spares, _, _, ended⟩ | ⟨w, d₁, spares, absent, _⟩
  · rw [ended]
    exact spares.untouched
  · rw [ended]
    exact (spares.trans (Lock.spares_release dataDir spares.tidy)).untouched
  · -- a ledger that is there does not vanish
    have still : ({ dataDir } : Storage).hasLedger d₁ = true := by
      refine spares.exists?_eq_true ?_ present
      rw [Storage.getLast?_parts_ledgerPath]
      decide
    rw [absent rfl] at still
    cases still

end Command

end Quorum
