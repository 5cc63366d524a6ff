import Quorum.Proofs.Storage.Interruption

/-!
# What saves that fail make of the backups

The backups move on before the new ledger file is written. So a save that fails leaves the ledger
file alone, but not the backups: some of them may have moved on, or all, and the oldest may be gone.
When the new file cannot be written at all, every try costs one more backup.
-/

namespace Quorum.Storage

open Quorum.Path (Plain)

variable {s : Storage} {d d' : Disk} {fault : Option Fault} {w : Wallet} {home : Path}
  {name old text : String} {n i count : Nat}

/-- What a save may have made of the backups when it stops. -/
inductive Wears (s : Storage) (d d' : Disk) : Prop
  /-- They are all where they were. -/
  | untouched (same : ∀ i, d'.under? (s.backupPath i) = d.under? (s.backupPath i))
  /-- They have moved on by one from a gap on. -/
  | parted (gap : Nat) (low : gap < s.maxBackups) (free : d'.under? (s.backupPath gap) = none)
      (below : ∀ i < gap, d'.under? (s.backupPath i) = d.under? (s.backupPath i))
      (next : ∀ i, gap ≤ i → i + 1 < s.maxBackups →
        d'.under? (s.backupPath (i + 1)) = d.under? (s.backupPath i))
      (beyond : ∀ i, s.maxBackups ≤ i →
        d'.under? (s.backupPath i) = d.under? (s.backupPath i))
  /-- They have all moved on by one, and there is a new latest one, be it complete or not. -/
  | shifted (part : String) (latest : d'.under? (s.backupPath 0) = some (.file part))
      (next : ∀ i, i + 1 < s.maxBackups →
        d'.under? (s.backupPath (i + 1)) = d.under? (s.backupPath i))
      (beyond : ∀ i, s.maxBackups ≤ i →
        d'.under? (s.backupPath i) = d.under? (s.backupPath i))

/-! ### One save that fails -/

/-- Without a ledger file, or if no backups are wanted, a save that stops has written nothing but
the file beside the ledger file. -/
lemma file?_of_idle {t : Slot} (idle : ¬ s.Keeps d) (stops : Stops (s.savePlan w d) d d')
    (apart : s.temporaryPath.parts.getLast? ≠ some t.name) : d'.file? t = d.file? t := by
  refine file?_of_reaches (reaches_of_stops stops) fun op planned p target => ?_
  rw [backup_of_not_keeps idle, List.nil_append] at planned
  obtain rfl := targets_preparation planned target
  exact apart

lemma Safe.wears (h : s.Safe old d) (stops : Stops (s.savePlan w d) d d') : s.Wears d d' := by
  obtain ⟨home, name, n, home_eq, steady, _⟩ := h.exists_steady
  obtain ⟨steady', middle, idle, worn, same⟩ := worn_of_stops home_eq steady stops
  have before := home_eq.under?_backupPath (steady.base home_eq.plain)
  have after (i : Nat) : d'.under? (s.backupPath i) = middle (backupName name i) := by
    rw [home_eq.under?_backupPath (steady'.base home_eq.plain),
      same _ (backupName_ne_temporaryName name i)]
  by_cases keeps : s.Keeps d
  · have some_kept := keeps.2.1
    cases worn with
    | untouched same => exact .untouched fun i => by rw [before, after, same]
    | parted gap parts =>
      have low := parts.low
      refine .parted gap (by omega) ?_ (fun i below => ?_) (fun i high below => ?_) fun i high => ?_
      · rw [after, parts.free]
      · rw [before, after, parts.others _ fun j _ _ => backupName_apart (by omega)]
      · rw [before, after, parts.next i high (by omega)]
      · rw [before, after, parts.others _ fun j _ _ => backupName_apart (by omega)]
    | shifted part shifts =>
      refine .shifted part ?_ (fun i below => ?_) fun i high => ?_
      · rw [after, shifts.latest]
      · rw [before, after, shifts.next i (by omega)]
      · rw [before, after, shifts.others _ fun j _ => backupName_apart (by omega)]
  · exact .untouched fun i => by rw [before, after, idle keeps]

/-! ### Saves that cannot write the new file -/

/-- A save that stops after the old ledger file was kept has shifted the backups, like one that
succeeds. -/
lemma Safe.rotates (h : s.Safe old d) (keeps : s.Keeps d) {kept : Disk}
    (backed_up : (s.backup d).foldlM FileOp.apply d = .ok kept)
    (stops : Stops (s.replacement (fileText w)) kept d') : s.Rotates d d' := by
  obtain ⟨home, name, n, home_eq, steady, there⟩ := h.exists_steady
  have base := steady.base home_eq.plain
  obtain ⟨steady_kept, _⟩ := reaches_backup home_eq steady (.inr backed_up)
  rw [replacement_eq] at stops
  obtain ⟨steady', same⟩ :=
    reaches_preparation home_eq steady_kept (reaches_of_stops_rename stops)
  rw [backup_of_keeps keeps] at backed_up
  obtain ⟨_, _, shifted⟩ := shifted_of_backup home_eq steady.anchored base backed_up
  refine .of_shifted home_eq base keeps there shifted fun i => ?_
  rw [home_eq.under?_backupPath (steady'.base home_eq.plain),
    same _ (backupName_ne_temporaryName name i)]

/-- So many saves, one after the other, that keep the old ledger file but do not get the new one
written. -/
inductive Fails (s : Storage) (d : Disk) : Nat → Disk → Prop
  | none : Fails s d 0 d
  | more {n : Nat} {d' kept d'' : Disk} (before : Fails s d n d') (w : Wallet)
      (backed_up : (s.backup d').foldlM FileOp.apply d' = .ok kept)
      (stops : Stops (s.replacement (fileText w)) kept d'') : Fails s d (n + 1) d''

/-- Each of them makes one more backup a copy of the ledger file that is there. -/
lemma Safe.fails (h : s.Safe old d) (keeps : s.Keeps d) (fails : s.Fails d n d') :
    s.Safe old d' ∧ ∀ i < s.maxBackups, d'.under? (s.backupPath i)
      = if i < n then some (.file old) else d.under? (s.backupPath (i - n)) := by
  induction fails with
  | none => exact ⟨h, fun i _ => rfl⟩
  | more before w backed_up stops ih =>
    obtain ⟨safe, backups⟩ := ih
    have keeps' := (⟨keeps.1, keeps.2.1, hasLedger_of_read safe.read⟩ : s.Keeps _)
    have rotates := safe.rotates keeps' backed_up stops
    have whole : Stops (s.savePlan w _) _ _ := stops_append_iff.mpr (.inr ⟨_, backed_up, stops⟩)
    refine ⟨safe.of_stops whole, fun i low => ?_⟩
    cases i with
    | zero =>
      obtain ⟨old', read, latest⟩ := rotates.latest
      rw [safe.read] at read
      cases read
      rw [latest, if_pos (Nat.succ_pos _)]
    | succ i =>
      rw [rotates.next i low, backups i (Nat.lt_of_succ_lt low), Nat.add_sub_add_right]
      simp only [Nat.add_lt_add_iff_right]

/-- A save that fails leaves the ledger file as it was, and if no backup is to be made, all else but
the file beside it. If one is to be made, the backups may have moved on, in part or in full; the
oldest is gone then. Where a save does not get the new file written, they have moved on as if it
had, so that with every further try one more of them is a copy of the ledger file, until nothing
older is left. -/
theorem failed_save_wears_backups (s : Storage) (d : Disk) :
    (∀ fault w e, (s.saveWith fault w d).1 = .error e →
      Stops (s.savePlan w d) d (s.saveWith fault w d).2) ∧
    (¬ s.Keeps d → ∀ w d', Stops (s.savePlan w d) d d' →
      ∀ t : Slot, s.temporaryPath.parts.getLast? ≠ some t.name → d'.file? t = d.file? t) ∧
    ∀ old, d.Tidy → d.Unshared → s.Settled d → d.read s.ledgerPath = .ok old →
      (∀ w d', Stops (s.savePlan w d) d d' →
        d'.read s.ledgerPath = .ok old ∧ s.Wears d d') ∧
      (s.Keeps d → ∀ n d', s.Fails d n d' →
        d'.read s.ledgerPath = .ok old ∧
        ∀ i < s.maxBackups, d'.under? (s.backupPath i)
          = if i < n then some (.file old) else d.under? (s.backupPath (i - n))) := by
  refine ⟨fun fault w e => stops_of_save, fun idle w d' stops t => file?_of_idle idle stops, ?_⟩
  intro old tidy unshared settled read
  have safe : s.Safe old d := ⟨tidy, unshared, settled, read⟩
  refine ⟨fun w d' stops => ⟨(safe.of_stops stops).read, safe.wears stops⟩, ?_⟩
  intro keeps n d' fails
  obtain ⟨safe, backups⟩ := safe.fails keeps fails
  exact ⟨safe.read, backups⟩

/-! ### A new file that cannot be made -/

/-- A disk with a ledger file and one backup, where a directory has the name under which a new
ledger file would be written. -/
def jammedDisk : Disk where
  workDir := Disk.top
  entries := [(⟨1, "ledger.json.tmp"⟩, .directory 2), (⟨1, "ledger.json"⟩, .file "newer"),
    (⟨1, "ledger.json.backup.0"⟩, .file "older"), (⟨Disk.top, "data"⟩, .directory 1)]

/-- The disk after a save that failed. -/
def wornDisk : Disk where
  workDir := Disk.top
  entries := [(⟨1, "ledger.json.backup.0"⟩, .file "newer"),
    (⟨1, "ledger.json.backup.1"⟩, .file "older"), (⟨1, "ledger.json.tmp"⟩, .directory 2),
    (⟨1, "ledger.json"⟩, .file "newer"), (⟨Disk.top, "data"⟩, .directory 1)]

lemma backup_jammedDisk :
    (dataStorage.backup jammedDisk).foldlM FileOp.apply jammedDisk = .ok wornDisk := by
  rfl

lemma save_jammedDisk (w : Wallet) :
    dataStorage.save w jammedDisk = (.error (.io .isDirectory), wornDisk) := by
  rfl

lemma safe_jammedDisk : dataStorage.Safe "newer" jammedDisk where
  tidy := by simp [Disk.Tidy, jammedDisk]
  unshared := Disk.unshared_of_pairwise (by simp [jammedDisk])
  settled := settled_dataStorage jammedDisk
  read := rfl

/-- A save that cannot make the new file has worn the backups when it fails. -/
theorem jammed_save_wears :
    dataStorage.Keeps jammedDisk ∧ Stops (dataStorage.savePlan .busy jammedDisk) jammedDisk wornDisk ∧
      dataStorage.Wears jammedDisk wornDisk ∧ dataStorage.Fails jammedDisk 1 wornDisk ∧
      wornDisk.read dataStorage.ledgerPath = .ok "newer" ∧
      wornDisk.under? (dataStorage.backupPath 0) = some (.file "newer") ∧
      wornDisk.under? (dataStorage.backupPath 1) = jammedDisk.under? (dataStorage.backupPath 0) := by
  obtain ⟨tidy, unshared, settled, read⟩ := safe_jammedDisk
  obtain ⟨reported, _, worn⟩ := failed_save_wears_backups dataStorage jammedDisk
  obtain ⟨stopped, failed⟩ := worn _ tidy unshared settled read
  have keeps : dataStorage.Keeps jammedDisk := ⟨rfl, by decide, rfl⟩
  have stops : Stops (dataStorage.savePlan .busy jammedDisk) jammedDisk wornDisk := by
    have stops := reported none .busy _ (congrArg Prod.fst (save_jammedDisk .busy))
    rwa [← Storage.save, save_jammedDisk] at stops
  have fails : dataStorage.Fails jammedDisk 1 wornDisk :=
    Fails.none.more .busy backup_jammedDisk (.here (.nothing _ _))
  obtain ⟨kept, backups⟩ := failed keeps 1 wornDisk fails
  exact ⟨keeps, stops, (stopped _ _ stops).2, fails, kept, backups 0 (by decide),
    backups 1 (by decide)⟩

/-- There is one more backup after it; and where only one is kept, the older one is lost. -/
theorem failed_save_loses_backup :
    (dataStorage.save .busy jammedDisk).1 = .error (.io .isDirectory) ∧
      dataStorage.backups jammedDisk = [0] ∧
      dataStorage.backups (dataStorage.save .busy jammedDisk).2 = [0, 1] ∧
      let s : Storage := { dataDir := "data", maxBackups := 1 }
      (s.save .busy jammedDisk).1 = .error (.io .isDirectory) ∧
        jammedDisk.read (s.backupPath 0) = .ok "older" ∧
        s.backups (s.save .busy jammedDisk).2 = [0] ∧
        (s.save .busy jammedDisk).2.read (s.backupPath 0) = .ok "newer" := by
  rw [save_jammedDisk]
  exact ⟨rfl, rfl, rfl, rfl, rfl, rfl, rfl⟩

end Quorum.Storage
