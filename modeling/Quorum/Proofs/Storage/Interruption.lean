import Quorum.Proofs.Disk.Way
import Quorum.Proofs.Storage.History

/-!
# Saves that stop short of their end

A save may stop in any of its operations, when that fails or when the machine does. The ledger file
is not touched before the last one, and that one puts a complete file in its place. Backups are
moved before, of which one may be a directory; the way to the ledger file must not go through it.
-/

namespace Quorum.Storage

open Disk (Anchored Displaces)
open Function (update update_eq_self_iff update_of_ne update_self)
open Quorum.Path (Fits Plain)

variable {s : Storage} {d d' : Disk} {fault : Option Fault} {w : Wallet} {home : Path}
  {name other text : String} {n i j count gap : Nat} {a b : String}

/-! ### The way to the ledger file -/

/-- The way to the ledger file does not go through a backup, which a save may move. -/
def Settled (s : Storage) (d : Disk) : Prop :=
  ∀ i t, d.locate (s.backupPath i) = .ok (.slot t) → ¬ d.LeadsThrough s.ledgerPath t

/-- A data directory is not reached through its backups if their names are not in its path. -/
lemma settled_of_not_mem_parts (home_eq : s.Housed home name)
    (other : ∀ i, backupName name i ∉ home.parts) : s.Settled d := by
  intro i t located through
  have plain := backupName_plain home_eq.plain i
  have mem := through.mem
  rw [home_eq.ledgerPath_eq, Path.parts_join home home_eq.plain.slash home_eq.plain.named.1,
    List.dropLast_concat] at mem
  rw [home_eq.backupPath_eq] at located
  rw [Disk.name_of_locate_join plain.slash plain.named located] at mem
  exact other i mem

/-- The ledger file has a place in its directory, and the way there does not go through a backup. -/
structure Steady (home : Path) (name : String) (n : Nat) (d : Disk) : Prop where
  anchored : Anchored home n d
  located : d.locate (Path.join home name) = .ok (.slot ⟨n, name⟩)
  apart : ∀ i, Fits home (backupName name i) →
    ¬ d.LeadsThrough (Path.join home name) ⟨n, backupName name i⟩

namespace Steady

lemma base (h : Steady home name n d) (plain : Plain name) : d.base home = .ok n := by
  obtain ⟨base, _, _⟩ := h.anchored.exists_of_locate plain h.located
  exact base

lemma of_base (home_eq : s.Housed home name) (tidy : d.Tidy) (unshared : d.Unshared)
    (settled : s.Settled d) (base : d.base home = .ok n) (fits : Fits home name) :
    Steady home name n d := by
  refine ⟨.of_base tidy unshared base, ?_, fun i fits_backup => ?_⟩
  · exact (Disk.locate_join_eq_ok_iff home_eq.plain).mpr ⟨n, base, rfl, fits⟩
  · rw [← home_eq.ledgerPath_eq]
    refine settled i _ ?_
    rw [home_eq.backupPath_eq]
    exact (Disk.locate_join_eq_ok_iff (backupName_plain home_eq.plain i)).mpr
      ⟨n, base, rfl, fits_backup⟩

lemma of_read (home_eq : s.Housed home name) (tidy : d.Tidy) (unshared : d.Unshared)
    (settled : s.Settled d) (read : d.read s.ledgerPath = .ok text) :
    ∃ n, Steady home name n d := by
  rw [home_eq.ledgerPath_eq] at read
  obtain ⟨n, base, there⟩ := (Disk.read_join_eq_ok_iff home_eq.plain).mp read
  obtain ⟨fits, _⟩ := Disk.shelf_eq_some_iff.mp there
  exact ⟨n, .of_base home_eq tidy unshared settled base fits⟩

lemma settled (h : Steady home name n d) (home_eq : s.Housed home name) : s.Settled d := by
  intro i t located
  rw [home_eq.backupPath_eq] at located
  obtain ⟨_, slot_eq, fits⟩ :=
    h.anchored.exists_of_locate (backupName_plain home_eq.plain i) located
  cases slot_eq
  rw [home_eq.ledgerPath_eq]
  exact h.apart i fits

/-- Whatever is done to the backups alone leaves the way as it is. -/
lemma displaced (h : Steady home name n d) {S : Slot → Prop} (displaces : Displaces S d d')
    (anchored : Anchored home n d')
    (within : ∀ t, S t → ∃ i, Fits home (backupName name i) ∧ t = ⟨n, backupName name i⟩) :
    Steady home name n d' := by
  have elsewhere (t : Slot) (special : S t) : ¬ d.LeadsThrough (Path.join home name) t := by
    obtain ⟨i, fits, rfl⟩ := within t special
    exact h.apart i fits
  exact ⟨anchored, displaces.locate_eq_ok h.located elsewhere, fun i fits through =>
    h.apart i fits (displaces.leadsThrough h.located elsewhere through)⟩

/-! ### Operations that succeed -/

lemma remove (h : Steady home name n d) (plain : Plain a)
    (removed : d.remove (Path.join home a) = .ok d') :
    Steady home name n d' ∧ d'.shelf home n = update (d.shelf home n) a none := by
  obtain ⟨anchored, shelf_eq⟩ := h.anchored.remove plain removed
  exact ⟨h.displaced (Disk.displaces_of_remove h.anchored.tidy removed) anchored nofun, shelf_eq⟩

lemma write (h : Steady home name n d) (plain : Plain a)
    (written : d.write (Path.join home a) text = .ok d') :
    Steady home name n d' ∧ d'.shelf home n = update (d.shelf home n) a (some (.file text)) := by
  obtain ⟨anchored, shelf_eq⟩ := h.anchored.write plain written
  exact ⟨h.displaced (Disk.displaces_of_write h.anchored.tidy written) anchored nofun, shelf_eq⟩

lemma append (h : Steady home name n d) (plain : Plain a)
    (appended : d.append (Path.join home a) text = .ok d') :
    Steady home name n d' ∧ ∃ old, d.shelf home n a = some (.file old) ∧
      d'.shelf home n = update (d.shelf home n) a (some (.file (old ++ text))) := by
  obtain ⟨anchored, old, there, shelf_eq⟩ := h.anchored.append plain appended
  exact ⟨h.displaced (Disk.displaces_of_append h.anchored.tidy appended) anchored nofun, old, there,
    shelf_eq⟩

/-- A backup that moves to a free name may be a directory. -/
lemma rename_backup (h : Steady home name n d) (plain : Plain name) (apart : i ≠ j)
    (free : d.shelf home n (backupName name j) = none)
    (renamed : d.rename (Path.join home (backupName name i)) (Path.join home (backupName name j))
      = .ok d') : Steady home name n d' ∧
    d'.shelf home n = update (update (d.shelf home n) (backupName name i) none) (backupName name j)
      (d.shelf home n (backupName name i)) := by
  have plain_i := backupName_plain plain i
  have plain_j := backupName_plain plain j
  obtain ⟨anchored, shelf_eq⟩ := h.anchored.rename plain_i plain_j
    (backupName_apart apart) (.inl free) renamed
  refine ⟨?_, shelf_eq⟩
  obtain ⟨t, u, entry, located, located', there, moved, _⟩ := Disk.exists_of_rename renamed
  obtain ⟨_, slot_eq, fits⟩ := h.anchored.exists_of_locate plain_i located
  cases slot_eq
  obtain ⟨_, slot_eq, fits'⟩ := h.anchored.exists_of_locate plain_j located'
  cases slot_eq
  have slots_apart : (⟨n, backupName name i⟩ : Slot) ≠ ⟨n, backupName name j⟩ :=
    fun same => backupName_apart apart (congrArg Slot.name same)
  obtain rfl := Disk.eq_of_move moved slots_apart
  have free : d.lookup? ⟨n, backupName name j⟩ = none := by
    rwa [Disk.shelf, if_pos fits'] at free
  refine h.displaced (Disk.displaces_moved h.anchored.tidy h.anchored.unshared there slots_apart
    free rfl) anchored ?_
  rintro _ rfl
  exact ⟨i, fits, rfl⟩

/-- A file may also take the place of another. -/
lemma rename_file (h : Steady home name n d) (plain_a : Plain a) (plain_b : Plain b)
    (apart : a ≠ b) (file : d.shelf home n a = some (.file text))
    (renamed : d.rename (Path.join home a) (Path.join home b) = .ok d') :
    Steady home name n d' ∧
      d'.shelf home n = update (update (d.shelf home n) a none) b (some (.file text)) := by
  obtain ⟨anchored, shelf_eq⟩ :=
    h.anchored.rename plain_a plain_b apart (.inr ⟨text, file⟩) renamed
  obtain ⟨t, u, entry, located, _, there, moved, _⟩ := Disk.exists_of_rename renamed
  obtain ⟨_, slot_eq, _⟩ := h.anchored.exists_of_locate plain_a located
  cases slot_eq
  have stands := (Disk.shelf_eq_some_iff.mp file).2
  rw [there] at stands
  cases stands
  rw [file] at shelf_eq
  exact ⟨h.displaced (Disk.displaces_of_move_file h.anchored.tidy there moved) anchored nofun,
    shelf_eq⟩

end Steady

/-! ### Backups that have not all moved on -/

/-- The backups from a gap on have moved on by one, and all others are where they were. -/
structure Parted (name : String) (gap count : Nat) (old new : String → Option Entry) : Prop where
  low : gap ≤ count
  free : new (backupName name gap) = none
  next : ∀ i, gap ≤ i → i < count → new (backupName name (i + 1)) = old (backupName name i)
  others : ∀ other, (∀ i, gap ≤ i → i ≤ count → other ≠ backupName name i) → new other = old other

namespace Parted

variable {old middle new : String → Option Entry}

lemma refl (free : old (backupName name count) = none) : Parted name count count old old where
  low := Nat.le_refl _
  free := free
  next _ high low := absurd low (Nat.not_lt.mpr high)
  others _ _ := rfl

/-- The last backup moves first, to a free name, and then those before it. -/
lemma succ (first : middle = update (update old (backupName name count) none)
      (backupName name (count + 1)) (old (backupName name count)))
    (rest : Parted name gap count middle new) : Parted name gap (count + 1) old new := by
  have low := rest.low
  refine ⟨Nat.le_succ_of_le low, rest.free, fun i high below => ?_, fun other apart => ?_⟩
  · rcases Nat.lt_succ_iff_lt_or_eq.mp below with below | rfl
    · rw [rest.next i high below, first, update_of_ne (backupName_apart (by omega)),
        update_of_ne (backupName_apart (by omega))]
    · rw [rest.others _ fun j _ low => backupName_apart (by omega), first, update_self]
  · rw [rest.others other fun i high low => apart i high (by omega), first,
      update_of_ne (apart _ (by omega) (by omega)), update_of_ne (apart _ (by omega) (by omega))]

/-- The last backup made room before. -/
lemma of_update
    (h : Parted name gap count (update old (backupName name count) none) new) :
    Parted name gap count old new where
  low := h.low
  free := h.free
  next i high low := by
    rw [h.next i high low, update_of_ne]
    exact backupName_apart (Nat.ne_of_lt low)
  others other apart := by
    rw [h.others other apart, update_of_ne (apart _ h.low (Nat.le_refl _))]

end Parted

/-- What a save may have made of the backups when it stops: nothing yet, or some moved on, or all
did, and the latest is being written. -/
inductive Worn (name : String) (last : Nat) (old new : String → Option Entry) : Prop
  | untouched (same : new = old)
  | parted (gap : Nat) (parts : Parted name gap last old new)
  | shifted (part : String) (shifts : Shifted name last (some (.file part)) old new)

/-- When all have moved on there is a gap at the first. -/
lemma Shifted.parted {old new : String → Option Entry} (h : Shifted name count none old new) :
    Parted name 0 count old new where
  low := Nat.zero_le _
  free := h.latest
  next i _ low := h.next i low
  others other apart := h.others other fun i low => apart i (Nat.zero_le _) low

/-- Only backups wear. -/
lemma Worn.others {last : Nat} {old new : String → Option Entry} (h : Worn name last old new)
    (apart : ∀ i, other ≠ backupName name i) : new other = old other := by
  cases h with
  | untouched same => rw [same]
  | parted gap parts => exact parts.others other fun i _ _ => apart i
  | shifted part shifts => exact shifts.others other fun i _ => apart i

/-! ### How far a save gets -/

/-- However many backups are renamed, the others are where they were. -/
lemma reaches_renames (plain : Plain name) (there : Nat → Bool) :
    ∀ {d : Disk}, Steady home name n d → d.shelf home n (backupName name count) = none →
      (∀ i < count, there i = (d.shelf home n (backupName name i)).isSome) →
      Reaches (((List.range count).reverse.filter there).map fun i =>
        FileOp.rename (Path.join home (backupName name i))
          (Path.join home (backupName name (i + 1)))) d d' →
      Steady home name n d' ∧ ∃ gap, Parted name gap count (d.shelf home n) (d'.shelf home n) := by
  induction count with
  | zero =>
    intro d steady free _ reaches
    obtain rfl := reaches_nil_iff.mp reaches
    exact ⟨steady, 0, .refl free⟩
  | succ count ih =>
    intro d steady free known reaches
    rw [List.range_succ, List.reverse_append, List.reverse_singleton,
      List.singleton_append] at reaches
    -- the plan stops at once, or one backup moves, or there is none to move
    obtain rfl | ⟨middle, steady, first, reaches⟩ : d' = d ∨ ∃ middle, Steady home name n middle ∧
        middle.shelf home n = update (update (d.shelf home n) (backupName name count) none)
          (backupName name (count + 1)) (d.shelf home n (backupName name count)) ∧
        Reaches (((List.range count).reverse.filter there).map fun i =>
          FileOp.rename (Path.join home (backupName name i))
            (Path.join home (backupName name (i + 1)))) middle d' := by
      cases present : there count with
      | true =>
        rw [List.filter_cons_of_pos present, List.map_cons] at reaches
        rcases reaches_cons_iff.mp reaches with left | ⟨middle, renamed, reaches⟩
        · cases left
          exact .inl rfl
        · obtain ⟨steady, shelf_eq⟩ := steady.rename_backup plain (by omega) free renamed
          exact .inr ⟨middle, steady, shelf_eq, reaches⟩
      | false =>
        rw [List.filter_cons_of_neg (by simp [present])] at reaches
        have absent : d.shelf home n (backupName name count) = none := by
          simpa [present] using known count (Nat.lt_succ_self count)
        exact .inr ⟨d, steady, (update_of_absent absent free).symm, reaches⟩
    · exact ⟨steady, count + 1, .refl free⟩
    · have left : middle.shelf home n (backupName name count) = none := by
        rw [first, update_of_ne (backupName_apart (by omega)), update_self]
      obtain ⟨steady, gap, parts⟩ := ih steady left (fun i low => by
        rw [known i (by omega), first, update_of_ne (backupName_apart (by omega)),
          update_of_ne (backupName_apart (by omega))]) reaches
      exact ⟨steady, gap, parts.succ first⟩

lemma reaches_rotation (home_eq : s.Housed home name) (steady : Steady home name n d)
    (reaches : Reaches (s.rotation d) d d') :
    Steady home name n d' ∧ (d' = d ∨
      ∃ gap, Parted name gap (s.maxBackups - 1) (d.shelf home n) (d'.shelf home n)) := by
  have base := steady.base home_eq.plain
  rcases reaches_append_iff.mp reaches with stops | ⟨cleared, removed, reaches⟩
  · -- to remove a file is not done by half
    split at stops
    · rcases stops_cons_iff.mp stops with left | ⟨_, _, stops⟩
      · cases left
        exact ⟨steady, .inl rfl⟩
      · exact absurd stops not_stops_nil
    · exact absurd stops not_stops_nil
  · obtain ⟨steady, shelf_eq⟩ : Steady home name n cleared ∧ cleared.shelf home n
        = update (d.shelf home n) (backupName name (s.maxBackups - 1)) none := by
      split at removed
      · obtain ⟨_, removed, ⟨⟩⟩ := List.foldlM_cons_eq_ok_iff.mp removed
        rw [home_eq.backupPath_eq] at removed
        exact steady.remove (backupName_plain home_eq.plain _) removed
      · rename_i absent
        cases removed
        rw [home_eq.exists?_backupPath, home_eq.under?_backupPath base, Bool.not_eq_true,
          Option.isSome_eq_false_iff, Option.isNone_iff_eq_none] at absent
        exact ⟨steady, (update_eq_self_iff.mpr absent.symm).symm⟩
    simp only [home_eq.backupPath_eq] at reaches
    obtain ⟨steady, gap, parts⟩ := reaches_renames home_eq.plain _ steady
      (by rw [shelf_eq, update_self]) (fun i low => by
        rw [← home_eq.backupPath_eq, home_eq.exists?_backupPath, home_eq.under?_backupPath base,
          shelf_eq, update_of_ne (backupName_apart (by omega))]) reaches
    rw [shelf_eq] at parts
    exact ⟨steady, .inr ⟨gap, parts.of_update⟩⟩

/-- The old ledger file is copied after the rotation, be it in full or not. -/
lemma reaches_backup (home_eq : s.Housed home name) (steady : Steady home name n d)
    (reaches : Reaches (s.backup d) d d') :
    Steady home name n d' ∧ (¬ s.Keeps d → d' = d) ∧
      Worn name (s.maxBackups - 1) (d.shelf home n) (d'.shelf home n) := by
  by_cases keeps : s.Keeps d
  · refine (and_congr_right' (and_iff_right (absurd keeps))).mpr ?_
    have partly (stops : Reaches (s.rotation d) d d') : Steady home name n d' ∧
        Worn name (s.maxBackups - 1) (d.shelf home n) (d'.shelf home n) := by
      obtain ⟨steady, rfl | ⟨gap, parts⟩⟩ := reaches_rotation home_eq steady stops
      · exact ⟨steady, .untouched rfl⟩
      · exact ⟨steady, .parted gap parts⟩
    rw [backup_of_keeps keeps] at reaches
    rcases reaches_append_iff.mp reaches with stops | ⟨rotated, moved, reaches⟩
    · exact partly (.inl stops)
    · obtain ⟨steady', _⟩ := reaches_rotation home_eq steady (.inr moved)
      obtain ⟨_, shifted⟩ :=
        shifted_of_rotation home_eq steady.anchored (steady.base home_eq.plain) moved
      have kept {part : String} (written : rotated.write (s.backupPath 0) part = .ok d') :
          Steady home name n d' ∧
            Worn name (s.maxBackups - 1) (d.shelf home n) (d'.shelf home n) := by
        rw [home_eq.backupPath_eq] at written
        obtain ⟨steady, shelf_eq⟩ := steady'.write (backupName_plain home_eq.plain 0) written
        exact ⟨steady, .shifted part (shifted.put_latest shelf_eq)⟩
      rcases reaches_cons_iff.mp reaches with left | ⟨copied, applied, reaches⟩
      · cases left with
        | nothing => exact ⟨steady', .parted 0 shifted.parted⟩
        | copied part written => exact kept written
      · obtain rfl := reaches_nil_iff.mp reaches
        obtain ⟨old, _, written⟩ := Disk.exists_of_copy applied
        exact kept written
  · rw [backup_of_not_keeps keeps] at reaches
    obtain rfl := reaches_nil_iff.mp reaches
    exact ⟨steady, fun _ => rfl, .untouched rfl⟩

/-- Nothing but the file beside the ledger file is touched. -/
lemma reaches_preparation (home_eq : s.Housed home name) (steady : Steady home name n d)
    (reaches : Reaches (s.preparation text) d d') :
    Steady home name n d' ∧
      ∀ other, other ≠ temporaryName name → d'.shelf home n other = d.shelf home n other := by
  have plain := temporaryName_plain home_eq.plain
  rw [preparation, home_eq.temporaryPath_eq] at reaches
  rcases reaches_cons_iff.mp reaches with left | ⟨created, applied, reaches⟩
  · cases left
    exact ⟨steady, fun _ _ => rfl⟩
  · obtain ⟨steady, first⟩ := steady.write plain applied
    have added {part : String} {next : Disk}
        (appended : created.append (Path.join home (temporaryName name)) part = .ok next) :
        Steady home name n next ∧
          ∀ other, other ≠ temporaryName name → next.shelf home n other = d.shelf home n other := by
      obtain ⟨steady, _, _, second⟩ := steady.append plain appended
      refine ⟨steady, fun other apart => ?_⟩
      rw [second, update_of_ne apart, first, update_of_ne apart]
    rcases reaches_cons_iff.mp reaches with left | ⟨written, applied, reaches⟩
    · cases left with
      | nothing => exact ⟨steady, fun other apart => by rw [first, update_of_ne apart]⟩
      | added part appended => exact added appended
    · -- to wait for the device changes nothing
      rcases reaches_cons_iff.mp reaches with left | ⟨_, ⟨⟩, reaches⟩
      · cases left
        exact added applied
      · obtain rfl := reaches_nil_iff.mp reaches
        exact added applied

/-- A save that stops has done no more than to write beside the ledger file. -/
lemma reaches_of_stops (stops : Stops (s.savePlan w d) d d') :
    Reaches (s.backup d ++ s.preparation (fileText w)) d d' := by
  rw [savePlan_eq] at stops
  exact reaches_of_stops_rename stops

/-- A save that stops has not touched the ledger file; the backups may have begun to move. -/
lemma worn_of_stops (home_eq : s.Housed home name) (steady : Steady home name n d)
    (stops : Stops (s.savePlan w d) d d') :
    Steady home name n d' ∧ ∃ middle,
      (¬ s.Keeps d → middle = d.shelf home n) ∧
      Worn name (s.maxBackups - 1) (d.shelf home n) middle ∧
      ∀ other, other ≠ temporaryName name → d'.shelf home n other = middle other := by
  rcases reaches_append_iff.mp (reaches_of_stops stops) with stops | ⟨kept, done, reaches⟩
  · obtain ⟨steady, idle, worn⟩ := reaches_backup home_eq steady (.inl stops)
    exact ⟨steady, _, fun idles => by rw [idle idles], worn, fun _ _ => rfl⟩
  · obtain ⟨steady, idle, worn⟩ := reaches_backup home_eq steady (.inr done)
    obtain ⟨steady, same⟩ := reaches_preparation home_eq steady reaches
    exact ⟨steady, _, fun idles => by rw [idle idles], worn, same⟩

/-- A save that is done leaves the way to the ledger file as it was. -/
lemma steady_of_done (home_eq : s.Housed home name) (steady : Steady home name n d)
    (done : (s.savePlan w d).foldlM FileOp.apply d = .ok d') : Steady home name n d' := by
  obtain ⟨kept, backed_up, done⟩ := List.foldlM_append_eq_ok_iff.mp done
  rw [replacement_eq] at done
  obtain ⟨prepared, done, renamed⟩ := List.foldlM_append_eq_ok_iff.mp done
  obtain ⟨_, renamed, ⟨⟩⟩ := List.foldlM_cons_eq_ok_iff.mp renamed
  obtain ⟨steady, _⟩ := reaches_backup home_eq steady (.inr backed_up)
  obtain ⟨_, shelf_eq⟩ := shelf_of_preparation home_eq steady.anchored done
  obtain ⟨steady, _⟩ := reaches_preparation home_eq steady (.inr done)
  simp only [home_eq.temporaryPath_eq, home_eq.ledgerPath_eq, FileOp.apply] at renamed
  exact (steady.rename_file (temporaryName_plain home_eq.plain) home_eq.plain
    (temporaryName_ne name) (by rw [shelf_eq, update_self]) renamed).1

/-! ### What is loaded afterwards -/

/-- The file itself stays in its place, whatever becomes of the way there. -/
lemma lookup?_of_stops {t : Slot} (home_eq : s.Housed home name)
    (located : d.locate s.ledgerPath = .ok (.slot t)) (there : d.lookup? t = some (.file text))
    (stops : Stops (s.savePlan w d) d d') : d'.lookup? t = some (.file text) := by
  have named : t.name = name := by
    rw [home_eq.ledgerPath_eq] at located
    exact Disk.name_of_locate_join home_eq.plain.slash home_eq.plain.named located
  have apart : ∀ op ∈ s.backup d ++ s.preparation (fileText w), ∀ p ∈ op.targets,
      p.parts.getLast? ≠ some t.name := by
    intro op planned p target last
    rw [named] at last
    rcases List.mem_append.mp planned with kept | prepared
    · obtain ⟨i, rfl⟩ := targets_backup kept target
      have plain := backupName_plain home_eq.plain i
      rw [home_eq.backupPath_eq, Path.getLast?_parts_join home plain.slash plain.named.1] at last
      exact backupName_ne name i (Option.some.inj last)
    · obtain rfl := targets_preparation prepared target
      have plain := temporaryName_plain home_eq.plain
      rw [home_eq.temporaryPath_eq, Path.getLast?_parts_join home plain.slash plain.named.1] at last
      exact temporaryName_ne name (Option.some.inj last)
  rw [← Disk.file?_eq_some_iff] at there ⊢
  rw [← there]
  exact file?_of_reaches (reaches_of_stops stops) apart

/-- The ledger file of a storage can be read, and a save leaves the way there alone. -/
structure Safe (s : Storage) (text : String) (d : Disk) : Prop where
  tidy : d.Tidy
  unshared : d.Unshared
  settled : s.Settled d
  read : d.read s.ledgerPath = .ok text

namespace Safe

lemma of_steady (home_eq : s.Housed home name) (steady : Steady home name n d)
    (there : d.shelf home n name = some (.file text)) : s.Safe text d where
  tidy := steady.anchored.tidy
  unshared := steady.anchored.unshared
  settled := steady.settled home_eq
  read := (home_eq.read_ledgerPath (steady.base home_eq.plain)).mpr there

lemma exists_steady (h : s.Safe text d) : ∃ home name n, s.Housed home name ∧
    Steady home name n d ∧ d.shelf home n name = some (.file text) := by
  obtain ⟨home, name, home_eq⟩ := Housed.exists_of_read h.read
  obtain ⟨n, steady⟩ := Steady.of_read home_eq h.tidy h.unshared h.settled h.read
  exact ⟨home, name, n, home_eq, steady,
    (home_eq.read_ledgerPath (steady.base home_eq.plain)).mp h.read⟩

/-- At whatever point a save stops, the ledger file holds what it held. -/
lemma of_stops (h : s.Safe text d) (stops : Stops (s.savePlan w d) d d') : s.Safe text d' := by
  obtain ⟨home, name, n, home_eq, steady, there⟩ := h.exists_steady
  obtain ⟨steady, middle, _, worn, same⟩ := worn_of_stops home_eq steady stops
  refine .of_steady home_eq steady ?_
  rw [same name (temporaryName_ne name).symm, worn.others fun i => (backupName_ne name i).symm,
    there]

/-- A save that is done has put the text of the wallet there. -/
lemma of_done (h : s.Safe text d) (done : (s.savePlan w d).foldlM FileOp.apply d = .ok d') :
    s.Safe (fileText w) d' := by
  obtain ⟨home, name, n, home_eq, steady, there⟩ := h.exists_steady
  have steady := steady_of_done home_eq steady done
  refine .of_steady home_eq steady ?_
  exact (home_eq.read_ledgerPath (steady.base home_eq.plain)).mp (read_of_done h.tidy done)

/-- What is left beside the ledger file does not matter. -/
lemma of_leftover {junk : String} (h : s.Safe text d)
    (written : d.write s.temporaryPath junk = .ok d') : s.Safe text d' := by
  obtain ⟨home, name, n, home_eq, steady, there⟩ := h.exists_steady
  rw [home_eq.temporaryPath_eq] at written
  obtain ⟨steady, shelf_eq⟩ := steady.write (temporaryName_plain home_eq.plain) written
  refine .of_steady home_eq steady ?_
  rw [shelf_eq, update_of_ne (temporaryName_ne name).symm, there]

end Safe

/-- What becomes of a data directory in which wallets are saved again and again, where some saves
stop short of their end, and anything may be left beside the ledger file: the text of the last
wallet whose save was done, or the old one. -/
inductive Tries (s : Storage) (d : Disk) (old : String) : String → Disk → Prop
  | start : Tries s d old old d
  | stopped {text : String} {d' d'' : Disk} (before : Tries s d old text d') (w : Wallet)
      (stops : Stops (s.savePlan w d') d' d'') : Tries s d old text d''
  | done {text : String} {d' d'' : Disk} (before : Tries s d old text d') (w : Wallet)
      (done : (s.savePlan w d').foldlM FileOp.apply d' = .ok d'') : Tries s d old (fileText w) d''
  | leftover {text : String} {d' d'' : Disk} (before : Tries s d old text d') (junk : String)
      (written : d'.write s.temporaryPath junk = .ok d'') : Tries s d old text d''

lemma Safe.run {old : String} (h : s.Safe old d) (tries : s.Tries d old text d') :
    s.Safe text d' := by
  induction tries with
  | start => exact h
  | stopped _ _ stops ih => exact ih.of_stops stops
  | done _ _ done ih => exact ih.of_done done
  | leftover _ _ written ih => exact ih.of_leftover written

/-- A save reports an error exactly if it stops short of its end. -/
lemma stops_of_save {e : Error} (failed : (s.saveWith fault w d).1 = .error e) :
    Stops (s.savePlan w d) d (s.saveWith fault w d).2 := by
  cases result : (runPlan fault (s.savePlan w d) d).1 with
  | error e => exact stops_of_runPlan result
  | ok =>
    have saved : (s.saveWith fault w d).1 = .ok () := congrArg (Except.mapError Error.io) result
    rw [failed] at saved
    cases saved

/-- A save that stops at any point, be it that an operation fails or that the machine stops, leaves
the ledger file in its place with its old text, which is loaded as before; one that is done leaves
the full text of the new wallet, which is loaded as the wallet was, but for registered code. That
goes on however often saves are tried, and whatever is left beside the ledger file. (The file is
also found again, if no backup is a directory through which its own path leads.) -/
theorem interrupted_save_keeps_ledger {before : Wallet} (tidy : d.Tidy) (unshared : d.Unshared)
    (loaded : s.load d = .ok before) :
    ∃ old, d.read s.ledgerPath = .ok old ∧
      (∀ w d', Stops (s.savePlan w d) d d' →
        (∀ t, d.locate s.ledgerPath = .ok (.slot t) → d'.lookup? t = some (.file old)) ∧
        (s.Settled d → d'.read s.ledgerPath = .ok old ∧ s.load d' = .ok before)) ∧
      (∀ w d', (s.savePlan w d).foldlM FileOp.apply d = .ok d' →
        d'.read s.ledgerPath = .ok (fileText w) ∧
        s.load d' = (Wallet.ofText (fileText w)).mapError .serialization ∧
        (w.Reachable → w.ledger.Held → s.load d' = .ok w.stored)) ∧
      (∀ fault w,
        ((s.saveWith fault w d).1 = .ok () →
          (s.savePlan w d).foldlM FileOp.apply d = .ok (s.saveWith fault w d).2) ∧
        ∀ e, (s.saveWith fault w d).1 = .error e →
          Stops (s.savePlan w d) d (s.saveWith fault w d).2) ∧
      (s.Settled d → ∀ text d', s.Tries d old text d' → d'.read s.ledgerPath = .ok text) := by
  obtain ⟨old, read, accepted⟩ := exists_of_load loaded
  obtain ⟨home, name, home_eq⟩ := Housed.exists_of_read read
  have safe (settled : s.Settled d) : s.Safe old d := ⟨tidy, unshared, settled, read⟩
  refine ⟨old, read, fun w d' stops => ⟨fun t located => ?_, fun settled => ?_⟩,
    fun w d' done => ?_, fun fault w => ⟨foldlM_of_save, fun e => stops_of_save⟩,
    fun settled text d' tries => ((safe settled).run tries).read⟩
  · obtain ⟨t', found⟩ := Disk.read_eq_ok_iff.mp read
    obtain ⟨located', there, _⟩ := Disk.findFile_eq_ok_iff.mp found
    rw [located] at located'
    cases located'
    exact lookup?_of_stops home_eq located there stops
  · have kept := ((safe settled).of_stops stops).read
    exact ⟨kept, by rw [load_of_read kept, accepted]; rfl⟩
  · have written := read_of_done tidy done
    exact ⟨written, load_of_read written, fun reachable held =>
      load_of_fileText written (reachable.storable held)⟩

/-! ### One save after another -/

lemma settled_dataStorage (d : Disk) : dataStorage.Settled d := by
  refine settled_of_not_mem_parts (housed "data") fun i mem => ?_
  have parts_eq : Path.parts "data" = ["data"] := by decide
  rw [parts_eq, List.mem_singleton] at mem
  have chars := congrArg String.toList mem
  simp [toList_backupName, ledgerName] at chars

lemma safe_firstSave : dataStorage.Safe (fileText (.create Ledger.couple)) firstSave := by
  have saved : (dataStorage.saveWith none (.create Ledger.couple) emptyDisk).1 = .ok () := rfl
  obtain ⟨read, tidy⟩ := read_of_save tidy_emptyDisk saved
  obtain ⟨_, _, unshared⟩ := rotates_of_save tidy_emptyDisk unshared_emptyDisk saved
  exact ⟨tidy, unshared, settled_dataStorage firstSave, read⟩

/-- The second of two saves fails when it has written one character. -/
theorem first_save_outlives_second :
    dataStorage.load firstSave = .ok (.create Ledger.couple) ∧
      (dataStorage.saveWith (some ⟨2, 1⟩) .busy firstSave).1 = .error (.io .deviceFailed) ∧
      (dataStorage.saveWith (some ⟨2, 1⟩) .busy firstSave).2.exists? dataStorage.temporaryPath ∧
      dataStorage.load (dataStorage.saveWith (some ⟨2, 1⟩) .busy firstSave).2
        = .ok (.create Ledger.couple) := by
  obtain ⟨tidy, unshared, settled, read⟩ := safe_firstSave
  have loaded : dataStorage.load firstSave = .ok (.create Ledger.couple) :=
    load_of_fileText read (Wallet.Reachable.storable (.created _) ⟨by decide, by decide⟩)
  have failed : (dataStorage.saveWith (some ⟨2, 1⟩) .busy firstSave).1
      = .error (.io .deviceFailed) := rfl
  obtain ⟨_, _, stopped, _, reported, _⟩ := interrupted_save_keeps_ledger tidy unshared loaded
  have stops := (reported (some ⟨2, 1⟩) .busy).2 _ failed
  exact ⟨loaded, failed, rfl, ((stopped _ _ stops).2 settled).2⟩

/-- A data directory that is reached through its own first backup, which is a directory. -/
def detour : Storage := { dataDir := "data/ledger.json.backup.0/.." }

/-- The disk with that directory. -/
def detourDisk : Disk where
  workDir := Disk.top
  entries := [(⟨1, "ledger.json"⟩, .file (fileText (.create Ledger.couple))),
    (⟨1, "ledger.json.backup.0"⟩, .directory 2), (⟨Disk.top, "data"⟩, .directory 1)]

/-- The first thing a save does is to move the backup, and then nothing is found any more. The
ledger file is still where it was. -/
theorem save_blocks_detour :
    detour.load detourDisk = .ok (.create Ledger.couple) ∧
      (detour.save .busy detourDisk).1 = .error (.io .notFound) ∧
      detour.load (detour.save .busy detourDisk).2 = .error (.ledgerMissing detour.ledgerPath) ∧
      dataStorage.load (detour.save .busy detourDisk).2 = .ok (.create Ledger.couple) := by
  have storable : (Wallet.create Ledger.couple).ledger.Storable :=
    Wallet.Reachable.storable (.created _) ⟨by decide, by decide⟩
  exact ⟨load_of_fileText rfl storable, rfl, rfl, load_of_fileText rfl storable⟩

end Quorum.Storage
