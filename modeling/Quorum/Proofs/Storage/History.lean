import Quorum.Proofs.Storage.Rotation
import Quorum.Proofs.Wallet.RoundTrip

/-!
# What is kept of many saves

When all wallets of a directory were saved there one after the other, its ledger file holds the last
of them, and its backups those before, as many as may be kept.
-/

namespace Quorum.Storage

variable {s : Storage} {d d' : Disk} {fault : Option Fault} {w : Wallet} {ws : List Wallet}
  {home : Path} {name text : String} {i : Nat}

/-- A file is read as the wallet of which it holds the text, but for registered code. -/
lemma load_of_fileText (read : d.read s.ledgerPath = .ok (fileText w))
    (storable : w.ledger.Storable) : s.load d = .ok w.stored := by
  rw [load_of_read read, Wallet.ofText_fileText, Wallet.decode_toJson storable]
  rfl

lemma loadBackup_of_fileText (read : d.read (s.backupPath i) = .ok (fileText w))
    (storable : w.ledger.Storable) : s.loadBackup i d = .ok w.stored := by
  rw [loadBackup_of_read read, Wallet.ofText_fileText, Wallet.decode_toJson storable]
  rfl

lemma loadBackup_of_none (home_eq : s.Housed home name)
    (absent : d.under? (s.backupPath i) = none) :
    s.loadBackup i d = .error (.backupMissing i) := by
  refine if_neg ?_
  rw [home_eq.exists?_backupPath, absent]
  nofun

/-! ### Saves one after the other -/

/-- Saves that all succeed, on devices that may fail; the last wallet comes first. -/
inductive Saves (s : Storage) (d : Disk) : List Wallet → Disk → Prop
  | none : Saves s d [] d
  | save {ws : List Wallet} {d' : Disk} (before : Saves s d ws d') (fault : Option Fault)
      (w : Wallet) (saved : (s.saveWith fault w d').1 = .ok ()) :
      Saves s d (w :: ws) (s.saveWith fault w d').2

/-- There is neither a ledger file nor a backup. -/
structure Vacant (s : Storage) (d : Disk) : Prop where
  ledger : s.hasLedger d = false
  backups : ∀ i, d.under? (s.backupPath i) = none

/-- The files hold the wallets of a list, the first in the ledger file, and the others in as many
backups as there may be. -/
structure Recalls (s : Storage) (ws : List Wallet) (d : Disk) : Prop where
  tidy : d.Tidy
  unshared : d.Unshared
  fresh : ws = [] → s.hasLedger d = false
  ledger : ∀ w, ws.head? = some w → d.read s.ledgerPath = .ok (fileText w)
  backups : ∀ i, d.under? (s.backupPath i)
    = ((ws.tail.take s.maxBackups)[i]?).map fun w => .file (fileText w)

namespace Recalls

lemma of_vacant (tidy : d.Tidy) (unshared : d.Unshared) (vacant : s.Vacant d) : s.Recalls [] d where
  tidy := tidy
  unshared := unshared
  fresh _ := vacant.ledger
  ledger := nofun
  backups i := by simp [vacant.backups i]

lemma save (h : s.Recalls ws d) (enabled : s.backupEnabled = true)
    (saved : (s.saveWith fault w d).1 = .ok ()) : s.Recalls (w :: ws) (s.saveWith fault w d).2 := by
  obtain ⟨read, tidy⟩ := read_of_save h.tidy saved
  obtain ⟨rotates, idles, unshared⟩ := rotates_of_save h.tidy h.unshared saved
  refine ⟨tidy, unshared, nofun, ?_, fun i => ?_⟩
  · rintro w ⟨rfl⟩
    exact read
  · cases ws with
    | nil =>
      -- the first save finds nothing that could become a backup
      have idle : ¬ s.Keeps d := by
        rintro ⟨_, _, there⟩
        rw [h.fresh rfl] at there
        cases there
      rw [idles idle i, h.backups i]
      rfl
    | cons before ws =>
      have there := hasLedger_of_read (h.ledger before rfl)
      by_cases none : s.maxBackups = 0
      · rw [idles (fun keeps => Nat.ne_of_gt keeps.2.1 none) i, h.backups i, none]
        simp
      · obtain ⟨⟨old, old_read, latest⟩, next, beyond⟩ :=
          rotates ⟨enabled, Nat.pos_of_ne_zero none, there⟩
        rw [h.ledger before rfl] at old_read
        cases old_read
        rw [List.tail_cons, List.getElem?_take]
        cases i with
        | zero => rw [latest, if_pos (Nat.pos_of_ne_zero none)]; rfl
        | succ i =>
          split
          · rename_i low
            rw [next i low, h.backups i, List.tail_cons, List.getElem?_take,
              if_pos (Nat.lt_of_succ_lt low)]
            rfl
          · rename_i high
            rw [beyond _ (Nat.le_of_not_lt high), h.backups, List.getElem?_take, if_neg high]

lemma run (h : s.Recalls [] d) (enabled : s.backupEnabled = true) (saves : s.Saves d ws d') :
    s.Recalls ws d' := by
  induction saves with
  | none => exact h
  | save before fault w saved ih => exact ih.save enabled saved

end Recalls

/-! ### What is found -/

lemma filter_range (m k : Nat) : (List.range k).filter (· < m) = List.range (min m k) := by
  induction k with
  | zero => simp
  | succ k ih =>
    rw [List.range_succ, List.filter_append, ih]
    by_cases low : k < m
    · rw [Nat.min_eq_right low, Nat.min_eq_right (Nat.le_of_lt low), List.range_succ]
      simp [low]
    · rw [Nat.min_eq_left (by omega), Nat.min_eq_left (by omega)]
      simp [low]

lemma Recalls.backups_eq (h : s.Recalls (w :: ws) d) :
    s.backups d = List.range (min ws.length s.maxBackups) := by
  obtain ⟨home, name, home_eq⟩ := Housed.exists_of_read (h.ledger w rfl)
  rw [← filter_range, Storage.backups]
  refine List.filter_congr fun i mem => ?_
  rw [home_eq.exists?_backupPath, h.backups i, List.tail_cons, List.getElem?_take,
    if_pos (List.mem_range.mp mem), Option.isSome_map, Bool.eq_iff_iff]
  simp

/-- A save that succeeds puts the wallet in the ledger file. If backups are wanted and there was a
ledger file, its old text is the latest backup, every other backup has become the next one, and
those beyond the greatest number are as they were; otherwise all backups are as they were. So after
saves in a directory that was vacant, the wallets before the last one are the backups, as many as
may be kept, and those are read back as they were saved, but for registered code. -/
theorem saves_shift_backups (s : Storage) :
    (∀ d fault w, d.Tidy → d.Unshared → (s.saveWith fault w d).1 = .ok () →
      (s.Keeps d → s.Rotates d (s.saveWith fault w d).2) ∧
      (¬ s.Keeps d → ∀ i,
        (s.saveWith fault w d).2.under? (s.backupPath i) = d.under? (s.backupPath i)) ∧
      (s.saveWith fault w d).2.read s.ledgerPath = .ok (fileText w)) ∧
    ∀ d ws w d', d.Tidy → d.Unshared → s.Vacant d → s.backupEnabled = true →
      s.Saves d (w :: ws) d' →
      d'.read s.ledgerPath = .ok (fileText w) ∧
      s.backups d' = List.range (min ws.length s.maxBackups) ∧
      ∀ i, (∀ old, (ws.take s.maxBackups)[i]? = some old →
          s.loadBackup i d' = (Wallet.ofText (fileText old)).mapError .serialization ∧
          (old.Reachable → old.ledger.Held → s.loadBackup i d' = .ok old.stored)) ∧
        ((ws.take s.maxBackups)[i]? = none → s.loadBackup i d' = .error (.backupMissing i)) := by
  constructor
  · intro d fault w tidy unshared saved
    obtain ⟨rotates, idles, _⟩ := rotates_of_save tidy unshared saved
    exact ⟨rotates, idles, (read_of_save tidy saved).1⟩
  · intro d ws w d' tidy unshared vacant enabled saves
    have recalls := (Recalls.of_vacant tidy unshared vacant).run enabled saves
    have read := recalls.ledger w rfl
    obtain ⟨home, name, home_eq⟩ := Housed.exists_of_read read
    refine ⟨read, recalls.backups_eq, fun i => ⟨fun old kept => ?_, fun absent => ?_⟩⟩
    · have there := recalls.backups i
      rw [List.tail_cons, kept] at there
      have read := (home_eq.read_backupPath i).mpr there
      exact ⟨loadBackup_of_read read, fun reachable held =>
        loadBackup_of_fileText read (reachable.storable held)⟩
    · refine loadBackup_of_none home_eq ?_
      rw [recalls.backups i, List.tail_cons, absent]
      rfl

/-! ### Two saves -/

/-- A disk with an empty data directory. -/
def emptyDisk : Disk where
  workDir := Disk.top
  entries := [(⟨Disk.top, "data"⟩, .directory 1)]

/-- The storage of that directory. -/
def dataStorage : Storage := { dataDir := "data" }

lemma tidy_emptyDisk : emptyDisk.Tidy :=
  List.pairwise_singleton _ _

lemma unshared_emptyDisk : emptyDisk.Unshared :=
  Disk.unshared_of_pairwise (List.pairwise_singleton _ _)

lemma vacant_emptyDisk : dataStorage.Vacant emptyDisk where
  ledger := rfl
  backups i := by
    have base : emptyDisk.base "data" = .ok 1 := rfl
    have home_eq : dataStorage.Housed "data" ledgerName := housed "data"
    rw [home_eq.under?_backupPath base]
    refine Option.eq_none_iff_forall_ne_some.mpr fun entry there => ?_
    have mem := Disk.mem_of_lookup? (Disk.shelf_eq_some_iff.mp there).2
    have slot_eq := congrArg Prod.fst (List.mem_singleton.mp mem)
    cases congrArg Slot.directory slot_eq

/-- The disk after a first wallet was saved there. -/
def firstSave : Disk :=
  (dataStorage.saveWith none (.create Ledger.couple) emptyDisk).2

/-- The disk after another one was saved. -/
def secondSave : Disk :=
  (dataStorage.saveWith none .busy firstSave).2

/-- The second save makes the wallet of the first one the only backup. -/
theorem second_save_keeps_first :
    dataStorage.Saves emptyDisk [.busy, .create Ledger.couple] secondSave ∧
      dataStorage.Keeps firstSave ∧ dataStorage.Rotates firstSave secondSave ∧
      dataStorage.backups secondSave = [0] ∧
      dataStorage.loadBackup 0 secondSave = .ok (.create Ledger.couple) := by
  have saved : (dataStorage.saveWith none (.create Ledger.couple) emptyDisk).1 = .ok () := rfl
  have saved' : (dataStorage.saveWith none .busy firstSave).1 = .ok () := rfl
  have saves : dataStorage.Saves emptyDisk [.busy, .create Ledger.couple] secondSave :=
    (Saves.none.save none _ saved).save none _ saved'
  obtain ⟨read, tidy⟩ := read_of_save tidy_emptyDisk saved
  obtain ⟨_, _, unshared⟩ := rotates_of_save tidy_emptyDisk unshared_emptyDisk saved
  have keeps : dataStorage.Keeps firstSave := ⟨rfl, by decide, hasLedger_of_read read⟩
  obtain ⟨shifts, recalls⟩ := saves_shift_backups dataStorage
  obtain ⟨_, backups_eq, loads⟩ := recalls emptyDisk _ _ secondSave tidy_emptyDisk
    unshared_emptyDisk vacant_emptyDisk rfl saves
  have one : List.range (min 1 dataStorage.maxBackups) = [0] := rfl
  have before := (loads 0).1 _ rfl
  refine ⟨saves, keeps, ?_, backups_eq.trans one, ?_⟩
  · exact (shifts firstSave none .busy tidy unshared saved').1 keeps
  · exact before.2 (.created _) ⟨by decide, by decide⟩

end Quorum.Storage
