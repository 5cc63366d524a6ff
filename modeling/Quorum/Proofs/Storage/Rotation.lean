import Quorum.Proofs.Disk.Plan
import Quorum.Proofs.Disk.Shelf
import Quorum.Proofs.Storage.Save
import Quorum.Proofs.Text.Digits

/-!
# How backups move on

A save that finds a ledger file gives every backup the next number, drops the oldest, and keeps the
old ledger file as the latest one. All these files stand in one directory, under the name of the
ledger file with different ends.
-/

namespace Quorum

namespace Storage

open Disk (Anchored)
open Function (update update_eq_self_iff update_of_ne update_self)
open Quorum.Path (Plain)

variable {s : Storage} {d d' : Disk} {fault : Option Fault} {w : Wallet} {home : Path}
  {name other text : String} {n i j count : Nat} {latest : Option Entry}

/-! ### Names -/

/-- The name under which a file is written before it replaces another. -/
def temporaryName (name : String) : String := name ++ ".tmp"

/-- The name of a backup of a file. -/
def backupName (name : String) (index : Nat) : String :=
  name ++ (".backup." ++ String.ofList (Text.digits index))

lemma toList_backupName (name : String) (i : Nat) :
    (backupName name i).toList = name.toList ++ (".backup.".toList ++ Text.digits i) := by
  simp [backupName]

lemma backupName_ne (name : String) (i : Nat) : backupName name i ≠ name := by
  intro same
  have chars := congrArg String.toList same
  simp [toList_backupName] at chars

lemma temporaryName_ne (name : String) : temporaryName name ≠ name := by
  intro same
  have chars := congrArg String.toList same
  simp [temporaryName] at chars

lemma backupName_ne_temporaryName (name : String) (i : Nat) :
    backupName name i ≠ temporaryName name := by
  intro same
  have chars := congrArg String.toList same
  simp [toList_backupName, temporaryName] at chars

lemma backupName_inj (h : backupName name i = backupName name j) : i = j := by
  have digits_eq : Text.digits i = Text.digits j := by
    have chars := congrArg String.toList h
    rw [toList_backupName, toList_backupName] at chars
    exact List.append_cancel_left (List.append_cancel_left chars)
  rw [← Text.digitsValue_digits i, digits_eq, Text.digitsValue_digits]

lemma backupName_apart (h : i ≠ j) : backupName name i ≠ backupName name j :=
  fun same => h (backupName_inj same)

/-- A name is plain still when something harmless is added. -/
lemma plain_append (plain : Plain name) {ending : String} (slash : '/' ∉ ending.toList)
    (zero : '\x00' ∉ ending.toList) (long : 2 < ending.toList.length) : Plain (name ++ ending) := by
  have longer {short : String} (h : short.toList.length ≤ 2) : name ++ ending ≠ short := by
    rintro rfl
    rw [String.toList_append, List.length_append] at h
    omega
  refine ⟨?_, ?_, longer (by decide), longer (by decide), longer (by decide)⟩
  · simp [plain.slash, slash]
  · simp [plain.zero, zero]

lemma not_mem_backup {c : Char} (digit : Text.isDigit c = false) (front : c ∉ ".backup.".toList)
    (i : Nat) : c ∉ (".backup." ++ String.ofList (Text.digits i)).toList := by
  simp only [String.toList_append, String.toList_ofList, List.mem_append]
  rintro (mem | mem)
  · exact front mem
  · rw [Text.isDigit_of_mem_digits mem] at digit
    cases digit

lemma backupName_plain (plain : Plain name) (i : Nat) : Plain (backupName name i) := by
  refine plain_append plain (not_mem_backup rfl (by decide) i) (not_mem_backup rfl (by decide) i) ?_
  rw [String.toList_append, List.length_append]
  exact Nat.lt_of_lt_of_le (by decide) (Nat.le_add_right ..)

lemma temporaryName_plain (plain : Plain name) : Plain (temporaryName name) :=
  plain_append plain (by decide) (by decide) (by decide)

/-! ### Where the files stand -/

/-- The ledger file stands in a directory under a name. -/
structure Housed (s : Storage) (home : Path) (name : String) : Prop where
  plain : Plain name
  pathOf : ∀ ending : String, '/' ∉ ending.toList →
    s.pathOf (s.ledgerFile ++ ending) = Path.join home (name ++ ending)

namespace Housed

/-- A ledger file that can be read stands somewhere, be its name a path or not. -/
lemma exists_of_read (read : d.read s.ledgerPath = .ok text) :
    ∃ home name, s.Housed home name := by
  obtain ⟨front, name, file_eq, slash, ends⟩ := Path.exists_eq_append s.ledgerFile
  have house {home : Path} (joined : ∀ ending : String, '/' ∉ ending.toList →
      s.pathOf (s.ledgerFile ++ ending) = Path.join home (name ++ ending)) : s.Housed home name := by
    refine ⟨?_, joined⟩
    have path_eq : s.ledgerPath = Path.join home name := by
      have joined := joined "" List.not_mem_nil
      rwa [String.append_empty, String.append_empty] at joined
    rw [path_eq] at read
    exact Disk.plain_of_read_join slash read
  rcases ends with rfl | ends
  · refine ⟨s.dataDir, name, house fun ending _ => ?_⟩
    rw [Storage.pathOf, file_eq, String.empty_append]
  · refine ⟨Path.join s.dataDir front, name, house fun ending plain => ?_⟩
    rw [Storage.pathOf, file_eq, String.append_assoc]
    exact Path.join_append s.dataDir ends (by simp [slash, plain])

variable (h : s.Housed home name)

include h

lemma ledgerPath_eq : s.ledgerPath = Path.join home name := by
  have joined := h.pathOf "" List.not_mem_nil
  rwa [String.append_empty, String.append_empty] at joined

lemma backupPath_eq (i : Nat) : s.backupPath i = Path.join home (backupName name i) := by
  rw [backupPath, String.append_assoc]
  exact h.pathOf _ (not_mem_backup rfl (by decide) i)

lemma temporaryPath_eq : s.temporaryPath = Path.join home (temporaryName name) :=
  h.pathOf _ (by decide)

lemma hasLedger_eq (d : Disk) : s.hasLedger d = (d.under? s.ledgerPath).isSome := by
  rw [hasLedger, h.ledgerPath_eq, Disk.exists?_join h.plain]

/-- The directory of a ledger file that is there. -/
lemma exists_base (there : s.hasLedger d = true) : ∃ n, d.base home = .ok n := by
  rw [h.hasLedger_eq, h.ledgerPath_eq, Option.isSome_iff_exists] at there
  obtain ⟨entry, there⟩ := there
  obtain ⟨n, base, _⟩ := (Disk.under?_join_eq_some_iff h.plain).mp there
  exact ⟨n, base⟩

lemma exists?_backupPath (i : Nat) (d : Disk) :
    d.exists? (s.backupPath i) = (d.under? (s.backupPath i)).isSome := by
  rw [h.backupPath_eq, Disk.exists?_join (backupName_plain h.plain i)]

lemma under?_backupPath (base : d.base home = .ok n) (i : Nat) :
    d.under? (s.backupPath i) = d.shelf home n (backupName name i) := by
  rw [h.backupPath_eq, Disk.under?_join (backupName_plain h.plain i) base]

lemma read_ledgerPath (base : d.base home = .ok n) :
    d.read s.ledgerPath = .ok text ↔ d.shelf home n name = some (.file text) := by
  simp only [h.ledgerPath_eq, Disk.read_join_eq_ok_iff h.plain, base, Except.ok.injEq,
    exists_eq_left']

lemma read_backupPath (i : Nat) :
    d.read (s.backupPath i) = .ok text ↔ d.under? (s.backupPath i) = some (.file text) := by
  have plain := backupName_plain h.plain i
  rw [h.backupPath_eq]
  exact Disk.read_eq_ok_iff_under? (Path.endsInSlash_join home plain.slash plain.named.1)

end Housed

/-! ### Backups that move on -/

/-- So many backups have moved on by one, and something else is the latest now; all other names
stand for what they stood for. -/
structure Shifted (name : String) (count : Nat) (latest : Option Entry)
    (old new : String → Option Entry) : Prop where
  latest : new (backupName name 0) = latest
  next : ∀ i < count, new (backupName name (i + 1)) = old (backupName name i)
  others : ∀ other, (∀ i ≤ count, other ≠ backupName name i) → new other = old other

/-- The last backup moves first, to a free name, and then those before it. -/
lemma Shifted.succ {old middle new : String → Option Entry}
    (first : middle = update (update old (backupName name count) none)
      (backupName name (count + 1)) (old (backupName name count)))
    (rest : Shifted name count latest middle new) : Shifted name (count + 1) latest old new := by
  constructor
  · exact rest.latest
  · intro i low
    rcases Nat.lt_succ_iff_lt_or_eq.mp low with low | rfl
    · rw [rest.next i low, first, update_of_ne (backupName_apart (by omega)),
        update_of_ne (backupName_apart (by omega))]
    · rw [rest.others _ fun j low => backupName_apart (by omega), first, update_self]
  · intro other apart
    rw [rest.others other fun i low => apart i (by omega), first,
      update_of_ne (apart _ (by omega)), update_of_ne (apart _ (by omega))]

/-- Something new is put as the latest backup after the others have moved on. -/
lemma Shifted.put_latest {old middle new : String → Option Entry} {former : Option Entry}
    (h : Shifted name count former old middle)
    (last : new = update middle (backupName name 0) latest) : Shifted name count latest old new := by
  refine ⟨?_, fun i low => ?_, fun other apart => ?_⟩
  · rw [last, update_self]
  · rw [last, update_of_ne, h.next i low]
    exact backupName_apart (Nat.succ_ne_zero i)
  · rw [last, update_of_ne (apart 0 (Nat.zero_le _)), h.others other apart]

/-- What is not there moves to a free name without a change. -/
lemma update_of_absent {shelf : String → Option Entry} {a b : String} (absent : shelf a = none)
    (free : shelf b = none) : update (update shelf a none) b (shelf a) = shelf := by
  have unmoved : update shelf a none = shelf := update_eq_self_iff.mpr absent.symm
  rw [unmoved, absent, update_eq_self_iff.mpr free.symm]

/-- Renamed one after the other, all backups below a free name move on. -/
lemma shifted_of_renames (plain : Plain name) (there : Nat → Bool) :
    ∀ {d : Disk}, Anchored home n d → d.shelf home n (backupName name count) = none →
      (∀ i < count, there i = (d.shelf home n (backupName name i)).isSome) →
      (((List.range count).reverse.filter there).map fun i =>
        FileOp.rename (Path.join home (backupName name i))
          (Path.join home (backupName name (i + 1)))).foldlM FileOp.apply d = .ok d' →
      Anchored home n d' ∧ Shifted name count none (d.shelf home n) (d'.shelf home n) := by
  induction count with
  | zero =>
    intro d anchored free _ done
    cases done
    exact ⟨anchored, free, nofun, fun _ _ => rfl⟩
  | succ count ih =>
    intro d anchored free known done
    rw [List.range_succ, List.reverse_append, List.reverse_singleton, List.singleton_append] at done
    -- one backup moves, or there is none to move
    obtain ⟨middle, anchored, first, done⟩ : ∃ middle, Anchored home n middle ∧
        middle.shelf home n = update (update (d.shelf home n) (backupName name count) none)
          (backupName name (count + 1)) (d.shelf home n (backupName name count)) ∧
        (((List.range count).reverse.filter there).map fun i =>
          FileOp.rename (Path.join home (backupName name i))
            (Path.join home (backupName name (i + 1)))).foldlM FileOp.apply middle = .ok d' := by
      cases present : there count with
      | true =>
        rw [List.filter_cons_of_pos present] at done
        obtain ⟨middle, renamed, done⟩ := List.foldlM_cons_eq_ok_iff.mp done
        obtain ⟨anchored, shelf_eq⟩ := anchored.rename (backupName_plain plain count)
          (backupName_plain plain (count + 1)) (backupName_apart (by omega)) (.inl free) renamed
        exact ⟨middle, anchored, shelf_eq, done⟩
      | false =>
        rw [List.filter_cons_of_neg (by simp [present])] at done
        have absent : d.shelf home n (backupName name count) = none := by
          simpa [present] using known count (Nat.lt_succ_self count)
        exact ⟨d, anchored, (update_of_absent absent free).symm, done⟩
    have left : middle.shelf home n (backupName name count) = none := by
      rw [first, update_of_ne (backupName_apart (by omega)), update_self]
    obtain ⟨anchored, shifted⟩ := ih anchored left (fun i low => by
      rw [known i (by omega), first, update_of_ne (backupName_apart (by omega)),
        update_of_ne (backupName_apart (by omega))]) done
    exact ⟨anchored, shifted.succ first⟩

/-- The oldest backup makes room, and all others move on. -/
lemma shifted_of_rotation (home_eq : s.Housed home name) (anchored : Anchored home n d)
    (base : d.base home = .ok n) (done : (s.rotation d).foldlM FileOp.apply d = .ok d') :
    Anchored home n d' ∧
      Shifted name (s.maxBackups - 1) none (d.shelf home n) (d'.shelf home n) := by
  obtain ⟨cleared, removed, renamed⟩ := List.foldlM_append_eq_ok_iff.mp done
  obtain ⟨anchored, shelf_eq⟩ : Anchored home n cleared ∧ cleared.shelf home n
      = update (d.shelf home n) (backupName name (s.maxBackups - 1)) none := by
    split at removed
    · obtain ⟨_, removed, ⟨⟩⟩ := List.foldlM_cons_eq_ok_iff.mp removed
      rw [home_eq.backupPath_eq] at removed
      exact anchored.remove (backupName_plain home_eq.plain _) removed
    · rename_i absent
      cases removed
      rw [home_eq.exists?_backupPath, home_eq.under?_backupPath base, Bool.not_eq_true, Option.isSome_eq_false_iff,
        Option.isNone_iff_eq_none] at absent
      exact ⟨anchored, (update_eq_self_iff.mpr absent.symm).symm⟩
  simp only [home_eq.backupPath_eq] at renamed
  obtain ⟨anchored, shifted⟩ := shifted_of_renames home_eq.plain _ anchored
    (by rw [shelf_eq, update_self]) (fun i low => by
      rw [← home_eq.backupPath_eq, home_eq.exists?_backupPath, home_eq.under?_backupPath base,
        shelf_eq, update_of_ne (backupName_apart (by omega))]) renamed
  refine ⟨anchored, shifted.latest, fun i low => ?_, fun other apart => ?_⟩
  · rw [shifted.next i low, shelf_eq, update_of_ne]
    exact backupName_apart (by omega)
  · rw [shifted.others other apart, shelf_eq, update_of_ne (apart _ (Nat.le_refl _))]

/-- The old ledger file is kept as the latest backup, and is left where it is. -/
lemma shifted_of_backup (home_eq : s.Housed home name) (anchored : Anchored home n d)
    (base : d.base home = .ok n) (done : (s.rotation d ++ [FileOp.copy s.ledgerPath
      (s.backupPath 0)]).foldlM FileOp.apply d = .ok d') :
    Anchored home n d' ∧ (∃ old, d.shelf home n name = some (.file old)) ∧
      Shifted name (s.maxBackups - 1) (d.shelf home n name) (d.shelf home n) (d'.shelf home n) := by
  obtain ⟨rotated, moved, copied⟩ := List.foldlM_append_eq_ok_iff.mp done
  obtain ⟨anchored, shifted⟩ := shifted_of_rotation home_eq anchored base moved
  obtain ⟨_, copied, ⟨⟩⟩ := List.foldlM_cons_eq_ok_iff.mp copied
  rw [home_eq.ledgerPath_eq, home_eq.backupPath_eq] at copied
  obtain ⟨anchored, old, there, shelf_eq⟩ :=
    anchored.copy home_eq.plain (backupName_plain home_eq.plain 0) copied
  rw [shifted.others name fun i _ => (backupName_ne name i).symm] at there
  rw [there]
  exact ⟨anchored, ⟨old, rfl⟩, shifted.put_latest shelf_eq⟩

/-! ### A new ledger file -/

/-- Writes a text beside the ledger file. -/
def preparation (s : Storage) (text : String) : List FileOp :=
  [.create s.temporaryPath, .append s.temporaryPath text, .sync s.temporaryPath]

lemma replacement_eq (s : Storage) (text : String) :
    s.replacement text = s.preparation text ++ [.rename s.temporaryPath s.ledgerPath] :=
  rfl

lemma savePlan_eq (s : Storage) (w : Wallet) (d : Disk) : s.savePlan w d
    = (s.backup d ++ s.preparation (fileText w)) ++ [.rename s.temporaryPath s.ledgerPath] := by
  rw [savePlan, replacement_eq, List.append_assoc]

lemma shelf_of_preparation (home_eq : s.Housed home name) (anchored : Anchored home n d)
    (done : (s.preparation text).foldlM FileOp.apply d = .ok d') :
    Anchored home n d' ∧
      d'.shelf home n = update (d.shelf home n) (temporaryName name) (some (.file text)) := by
  have plain := temporaryName_plain home_eq.plain
  obtain ⟨d₁, created, done⟩ := List.foldlM_cons_eq_ok_iff.mp done
  obtain ⟨d₂, appended, done⟩ := List.foldlM_cons_eq_ok_iff.mp done
  obtain ⟨_, ⟨⟩, ⟨⟩⟩ := List.foldlM_cons_eq_ok_iff.mp done
  simp only [home_eq.temporaryPath_eq, FileOp.apply] at created appended
  obtain ⟨anchored, first⟩ := anchored.write plain created
  obtain ⟨anchored, old, empty, second⟩ := anchored.append plain appended
  rw [first, update_self] at empty
  cases empty
  rw [String.empty_append, first, Function.update_idem] at second
  exact ⟨anchored, second⟩

/-- To replace the ledger file changes no other, and leaves nothing beside it. -/
lemma shelf_of_replacement (home_eq : s.Housed home name) (anchored : Anchored home n d)
    (done : (s.replacement text).foldlM FileOp.apply d = .ok d') :
    Anchored home n d' ∧ d'.shelf home n
      = update (update (d.shelf home n) (temporaryName name) none) name (some (.file text)) := by
  rw [replacement_eq] at done
  obtain ⟨prepared, done, renamed⟩ := List.foldlM_append_eq_ok_iff.mp done
  obtain ⟨_, renamed, ⟨⟩⟩ := List.foldlM_cons_eq_ok_iff.mp renamed
  simp only [home_eq.temporaryPath_eq, home_eq.ledgerPath_eq, FileOp.apply] at renamed
  obtain ⟨anchored, first⟩ := shelf_of_preparation home_eq anchored done
  have written : prepared.shelf home n (temporaryName name) = some (.file text) := by
    rw [first, update_self]
  obtain ⟨anchored, second⟩ := anchored.rename (temporaryName_plain home_eq.plain) home_eq.plain
    (temporaryName_ne name) (.inr ⟨text, written⟩) renamed
  rw [written, first, Function.update_idem] at second
  exact ⟨anchored, second⟩

lemma exists_base_of_replacement (home_eq : s.Housed home name)
    (done : (s.replacement text).foldlM FileOp.apply d = .ok d') : ∃ n, d.base home = .ok n := by
  obtain ⟨_, created, _⟩ := List.foldlM_cons_eq_ok_iff.mp done
  obtain ⟨_, free, _⟩ := Disk.exists_of_write created
  obtain ⟨located, _⟩ := Disk.exists_of_fileSlot free
  rw [home_eq.temporaryPath_eq,
    Disk.locate_join_eq_ok_iff (temporaryName_plain home_eq.plain)] at located
  obtain ⟨n, base, _⟩ := located
  exact ⟨n, base⟩

/-! ### Saves -/

/-- Whether a save keeps the old ledger file. -/
def Keeps (s : Storage) (d : Disk) : Prop :=
  s.backupEnabled = true ∧ 0 < s.maxBackups ∧ s.hasLedger d = true

/-- All backups that are kept have moved on by one, and the old ledger file is the latest. -/
structure Rotates (s : Storage) (d d' : Disk) : Prop where
  latest : ∃ old, d.read s.ledgerPath = .ok old ∧ d'.under? (s.backupPath 0) = some (.file old)
  next : ∀ i, i + 1 < s.maxBackups → d'.under? (s.backupPath (i + 1)) = d.under? (s.backupPath i)
  beyond : ∀ i, s.maxBackups ≤ i → d'.under? (s.backupPath i) = d.under? (s.backupPath i)

/-- Backups rotate when all have moved on and the old ledger file is the latest. -/
lemma Rotates.of_shifted {middle : String → Option Entry} {old : String}
    (home_eq : s.Housed home name) (base : d.base home = .ok n) (keeps : s.Keeps d)
    (there : d.shelf home n name = some (.file old))
    (shifted : Shifted name (s.maxBackups - 1) (d.shelf home n name) (d.shelf home n) middle)
    (after : ∀ i, d'.under? (s.backupPath i) = middle (backupName name i)) : s.Rotates d d' := by
  have before := home_eq.under?_backupPath base
  refine ⟨⟨old, (home_eq.read_ledgerPath base).mpr there, ?_⟩, fun i low => ?_, fun i high => ?_⟩
  · rw [after, shifted.latest, there]
  · rw [after, before, shifted.next i (by omega)]
  · rw [after, before, shifted.others]
    intro j low same
    have := backupName_inj same
    have := keeps.2.1
    omega

lemma backup_of_keeps (keeps : s.Keeps d) :
    s.backup d = s.rotation d ++ [.copy s.ledgerPath (s.backupPath 0)] :=
  if_pos keeps

lemma backup_of_not_keeps (idle : ¬ s.Keeps d) : s.backup d = [] :=
  if_neg idle

/-- The directory of the ledger file is there before a save that succeeds. -/
lemma exists_base_of_save (tidy : d.Tidy) (saved : (s.saveWith fault w d).1 = .ok ()) :
    ∃ home name n, s.Housed home name ∧ d.base home = .ok n := by
  obtain ⟨read, _⟩ := read_of_save tidy saved
  obtain ⟨home, name, home_eq⟩ := Housed.exists_of_read read
  refine ⟨home, name, ?_⟩
  by_cases keeps : s.Keeps d
  · obtain ⟨n, base⟩ := home_eq.exists_base keeps.2.2
    exact ⟨n, home_eq, base⟩
  · obtain ⟨_, idle, replaced⟩ := List.foldlM_append_eq_ok_iff.mp (foldlM_of_save saved)
    rw [backup_of_not_keeps keeps] at idle
    cases idle
    obtain ⟨n, base⟩ := exists_base_of_replacement home_eq replaced
    exact ⟨n, home_eq, base⟩

/-- A save that succeeds turns to the backups, and then puts a new ledger file in place. -/
lemma exists_shelf_of_save (home_eq : s.Housed home name) (anchored : Anchored home n d)
    (base : d.base home = .ok n) (saved : (s.saveWith fault w d).1 = .ok ()) :
    ∃ middle,
      (s.Keeps d → (∃ old, d.shelf home n name = some (.file old)) ∧
        Shifted name (s.maxBackups - 1) (d.shelf home n name) (d.shelf home n) middle) ∧
      (¬ s.Keeps d → middle = d.shelf home n) ∧
      Anchored home n (s.saveWith fault w d).2 ∧
      (s.saveWith fault w d).2.shelf home n
        = update (update middle (temporaryName name) none) name (some (.file (fileText w))) := by
  obtain ⟨kept, backed_up, replaced⟩ := List.foldlM_append_eq_ok_iff.mp (foldlM_of_save saved)
  by_cases keeps : s.Keeps d
  · rw [backup_of_keeps keeps] at backed_up
    obtain ⟨anchored, old, shifted⟩ := shifted_of_backup home_eq anchored base backed_up
    refine ⟨kept.shelf home n, fun _ => ⟨old, shifted⟩, fun idle => absurd keeps idle, ?_⟩
    exact shelf_of_replacement home_eq anchored replaced
  · rw [backup_of_not_keeps keeps] at backed_up
    cases backed_up
    refine ⟨d.shelf home n, fun active => absurd active keeps, fun _ => rfl, ?_⟩
    exact shelf_of_replacement home_eq anchored replaced

/-- The way to the directory is the same after a save that succeeds. -/
lemma base_of_saved (home_eq : s.Housed home name) (tidy : d.Tidy) (unshared : d.Unshared)
    (base : d.base home = .ok n) (saved : (s.saveWith fault w d).1 = .ok ()) :
    (s.saveWith fault w d).2.base home = .ok n := by
  obtain ⟨_, _, _, anchored, _⟩ :=
    exists_shelf_of_save home_eq (.of_base tidy unshared base) base saved
  obtain ⟨read, _⟩ := read_of_save tidy saved
  rw [home_eq.ledgerPath_eq, Disk.read_join_eq_ok_iff home_eq.plain] at read
  obtain ⟨m, base, _⟩ := read
  rw [base, anchored.base m base]

/-- A save that succeeds shifts the backups by one if it keeps the old ledger file, and leaves all
of them alone otherwise. -/
lemma rotates_of_save (tidy : d.Tidy) (unshared : d.Unshared)
    (saved : (s.saveWith fault w d).1 = .ok ()) :
    (s.Keeps d → s.Rotates d (s.saveWith fault w d).2) ∧
    (¬ s.Keeps d → ∀ i,
      (s.saveWith fault w d).2.under? (s.backupPath i) = d.under? (s.backupPath i)) ∧
    (s.saveWith fault w d).2.Unshared := by
  obtain ⟨home, name, n, home_eq, base⟩ := exists_base_of_save tidy saved
  obtain ⟨middle, moved, idle, anchored, shelf_eq⟩ :=
    exists_shelf_of_save home_eq (.of_base tidy unshared base) base saved
  have base' := base_of_saved home_eq tidy unshared base saved
  have before := home_eq.under?_backupPath base
  have after (i : Nat) :
      (s.saveWith fault w d).2.under? (s.backupPath i) = middle (backupName name i) := by
    rw [home_eq.under?_backupPath base', shelf_eq, update_of_ne (backupName_ne name i),
      update_of_ne (backupName_ne_temporaryName name i)]
  refine ⟨fun keeps => ?_, fun idles i => ?_, anchored.unshared⟩
  · obtain ⟨⟨old, there⟩, shifted⟩ := moved keeps
    exact .of_shifted home_eq base keeps there shifted after
  · rw [after, before, idle idles]

/-! ### What a save has to do with -/

/-- What is done before a new ledger file is written touches backups only. -/
lemma targets_backup {op : FileOp} {p : Path} (planned : op ∈ s.backup d) (target : p ∈ op.targets) :
    ∃ i, p = s.backupPath i := by
  unfold backup at planned
  split at planned
  · rcases List.mem_append.mp planned with rotated | copied
    · rcases List.mem_append.mp rotated with oldest | moved
      · split at oldest
        · cases List.mem_singleton.mp oldest
          cases List.mem_singleton.mp target
          exact ⟨_, rfl⟩
        · cases oldest
      · obtain ⟨i, _, rfl⟩ := List.mem_map.mp moved
        simp only [FileOp.targets, List.mem_cons, List.not_mem_nil, or_false] at target
        rcases target with rfl | rfl
        · exact ⟨i, rfl⟩
        · exact ⟨i + 1, rfl⟩
    · cases List.mem_singleton.mp copied
      cases List.mem_singleton.mp target
      exact ⟨0, rfl⟩
  · cases planned

lemma targets_preparation {op : FileOp} {p : Path} (planned : op ∈ s.preparation text)
    (target : p ∈ op.targets) : p = s.temporaryPath := by
  simp only [preparation, List.mem_cons, List.not_mem_nil, or_false] at planned
  rcases planned with rfl | rfl | rfl
  · exact List.mem_singleton.mp target
  · exact List.mem_singleton.mp target
  · cases target

/-- An operation touches the ledger file, the one that is to replace it, or a backup. -/
lemma targets_savePlan {op : FileOp} {p : Path} (planned : op ∈ s.savePlan w d)
    (target : p ∈ op.targets) :
    p = s.ledgerPath ∨ p = s.temporaryPath ∨ ∃ i, p = s.backupPath i := by
  rw [savePlan_eq] at planned
  rcases List.mem_append.mp planned with before | renamed
  · rcases List.mem_append.mp before with kept | prepared
    · exact .inr (.inr (targets_backup kept target))
    · exact .inr (.inl (targets_preparation prepared target))
  · cases List.mem_singleton.mp renamed
    simp only [FileOp.targets, List.mem_cons, List.not_mem_nil, or_false] at target
    rcases target with rfl | rfl
    · exact .inr (.inl rfl)
    · exact .inl rfl

/-! ### The usual ledger file -/

/-- The name of the ledger file where no other is asked for. -/
def ledgerName : String := "ledger.json"

lemma housed (dataDir : Path) : ({ dataDir } : Storage).Housed dataDir ledgerName where
  plain := ⟨by decide, by decide, by decide⟩
  pathOf _ _ := rfl

lemma getLast?_parts_ledgerPath (dataDir : Path) :
    ({ dataDir } : Storage).ledgerPath.parts.getLast? = some ledgerName := by
  have home_eq := housed dataDir
  rw [home_eq.ledgerPath_eq]
  exact Path.getLast?_parts_join dataDir home_eq.plain.slash home_eq.plain.named.1

lemma getLast?_parts_backupPath (dataDir : Path) (index : Nat) :
    (({ dataDir } : Storage).backupPath index).parts.getLast?
      = some (backupName ledgerName index) := by
  have home_eq := housed dataDir
  have plain := backupName_plain home_eq.plain index
  rw [home_eq.backupPath_eq]
  exact Path.getLast?_parts_join dataDir plain.slash plain.named.1

lemma getLast?_parts_temporaryPath (dataDir : Path) :
    ({ dataDir } : Storage).temporaryPath.parts.getLast? = some (temporaryName ledgerName) := by
  have home_eq := housed dataDir
  have plain := temporaryName_plain home_eq.plain
  rw [home_eq.temporaryPath_eq]
  exact Path.getLast?_parts_join dataDir plain.slash plain.named.1

/-- All names with which a save has to do start as the name of the ledger file. -/
lemma head?_of_targets_savePlan {dataDir : Path} {op : FileOp} {p : Path}
    (planned : op ∈ ({ dataDir } : Storage).savePlan w d) (target : p ∈ op.targets)
    (last : p.parts.getLast? = some name) : name.toList.head? = some 'l' := by
  have named : p = ({ dataDir } : Storage).ledgerPath ∨
      p = ({ dataDir } : Storage).temporaryPath ∨
      ∃ i, p = ({ dataDir } : Storage).backupPath i := targets_savePlan planned target
  rcases named with rfl | rfl | ⟨i, rfl⟩
  · rw [getLast?_parts_ledgerPath] at last
    cases last
    rfl
  · rw [getLast?_parts_temporaryPath] at last
    cases last
    rfl
  · rw [getLast?_parts_backupPath] at last
    cases last
    simp [toList_backupName, ledgerName]

/-- A save, be it one that fails, leaves all files alone whose names start otherwise. -/
lemma file?_of_save (dataDir : Path) (w : Wallet) (tidy : d.Tidy) :
    (({ dataDir } : Storage).save w d).2.Tidy ∧ ∀ t : Slot, t.name.toList.head? ≠ some 'l' →
      (({ dataDir } : Storage).save w d).2.file? t = d.file? t := by
  simp only [save, saveWith]
  constructor
  · exact tidy.reaches (reaches_runPlan none _ d)
  · intro t other
    refine file?_of_reaches (reaches_runPlan none _ d) ?_
    intro op planned p target last
    exact other (head?_of_targets_savePlan planned target last)

/-- A save that succeeds keeps the old text of the ledger file as the latest backup. -/
theorem read_backup_of_save {dataDir : Path} {old : String} (tidy : d.Tidy) (unshared : d.Unshared)
    (read : d.read ({ dataDir } : Storage).ledgerPath = .ok old)
    (saved : ({ dataDir } : Storage).save w d = (.ok (), d')) :
    d'.read (({ dataDir } : Storage).backupPath 0) = .ok old := by
  have saved : ({ dataDir } : Storage).saveWith none w d = (.ok (), d') := saved
  obtain ⟨rotates, _⟩ := rotates_of_save tidy unshared (congrArg Prod.fst saved)
  obtain ⟨old', read', there⟩ := (rotates ⟨rfl, Nat.succ_pos 4, hasLedger_of_read read⟩).latest
  rw [read] at read'
  cases read'
  rw [saved] at there
  exact ((housed dataDir).read_backupPath 0).mpr there

end Storage

end Quorum
