import Mathlib.Data.List.Pairwise
import Quorum.Proofs.Disk.Names

/-!
# Disks on which little changed

Work that makes directories, and files of one name, spares all other files: they have the same text,
and every path that led to them still does.
-/

namespace Quorum.Disk

variable {d d' d'' : Disk} {s t : Slot} {p : Path} {name text : String}

/-! ### Where paths lead -/

/-- Every path that led somewhere still leads there. -/
def Leads (d d' : Disk) : Prop :=
  ∀ p place, d.locate p = .ok place → d'.locate p = .ok place

/-- The text of the file at a place. -/
def file? (d : Disk) (s : Slot) : Option String :=
  match d.lookup? s with
  | some (.file text) => some text
  | _ => none

lemma file?_put_of_ne (apart : s ≠ t) (entry : Entry) : (d.put s entry).file? t = d.file? t := by
  rw [file?, lookup?_put, if_neg apart, file?]

lemma file?_drop_of_ne (apart : s ≠ t) : (d.drop s).file? t = d.file? t := by
  rw [file?, lookup?_drop, if_neg apart, file?]

/-- No directory stands in two places. -/
def Unshared (d : Disk) : Prop :=
  ∀ s t number, d.lookup? s = some (.directory number) → d.lookup? t = some (.directory number) →
    s = t

/-- No directory is shared if no two entries are the same directory. -/
lemma unshared_of_pairwise (apart : d.entries.Pairwise fun e f =>
    ∀ number, e.2 = .directory number → f.2 ≠ .directory number) : d.Unshared := by
  have mirrored : Std.Symm fun e f : Slot × Entry =>
      ∀ number, e.2 = .directory number → f.2 ≠ .directory number :=
    ⟨fun _ _ h number first second => h number second first⟩
  intro s t number at_s at_t
  by_cases same : s = t
  · exact same
  · exact absurd rfl (apart.forall (mem_of_lookup? at_s) (mem_of_lookup? at_t)
      (fun entries => same (congrArg Prod.fst entries)) number rfl)

/-- What stands in fewer places, or is no directory, is not shared. -/
lemma Unshared.of_directories (h : d.Unshared)
    (kept : ∀ s number, d'.lookup? s = some (.directory number) →
      d.lookup? s = some (.directory number)) : d'.Unshared :=
  fun s t number at_s at_t => h s t number (kept s number at_s) (kept t number at_t)

lemma directory_of_lookup?_put {number : Nat} {t : Slot}
    (h : (d.put s (.file text)).lookup? t = some (.directory number)) :
    d.lookup? t = some (.directory number) := by
  rw [lookup?_put] at h
  split at h
  · cases h
  · exact h

lemma directory_of_lookup?_drop {number : Nat} {t : Slot}
    (h : (d.drop s).lookup? t = some (.directory number)) :
    d.lookup? t = some (.directory number) := by
  rw [lookup?_drop] at h
  split at h
  · cases h
  · exact h

/-- Only files of one name may differ. Directories, and whatever paths led to, are where they were;
there may be more directories, in which nothing was before. -/
structure Spares (name : String) (d d' : Disk) : Prop where
  tidy : d'.Tidy
  unshared : d.Unshared → d'.Unshared
  workDir : d'.workDir = d.workDir
  leads : Leads d d'
  directory : ∀ s number, d.lookup? s = some (.directory number) →
    d'.lookup? s = some (.directory number)
  vacant : ∀ s number, d'.lookup? s = some (.directory number) →
    d.lookup? s = some (.directory number) ∨
      ∀ other, other ≠ name → d.lookup? ⟨number, other⟩ = none
  file?_eq : ∀ s, s.name ≠ name → d'.file? s = d.file? s

namespace Spares

lemma refl (tidy : d.Tidy) : Spares name d d :=
  ⟨tidy, fun unshared => unshared, rfl, fun _ _ led => led, fun _ _ there => there,
    fun _ _ there => .inl there, fun _ _ => rfl⟩

/-- Nothing of another name was where nothing is. -/
lemma lookup?_eq_none (h : Spares name d d') (other : s.name ≠ name) (free : d'.lookup? s = none) :
    d.lookup? s = none := by
  cases there : d.lookup? s with
  | none => rfl
  | some e =>
    cases e with
    | file text =>
      have same := h.file?_eq s other
      simp [file?, there, free] at same
    | directory number =>
      rw [h.directory s number there] at free
      cases free

lemma trans (h : Spares name d d') (h' : Spares name d' d'') : Spares name d d'' where
  tidy := h'.tidy
  unshared alone := h'.unshared (h.unshared alone)
  workDir := h'.workDir.trans h.workDir
  leads p place led := h'.leads p place (h.leads p place led)
  directory s number there := h'.directory s number (h.directory s number there)
  vacant s number there := by
    rcases h'.vacant s number there with before | free
    · exact h.vacant s number before
    · exact .inr fun other apart => h.lookup?_eq_none apart (free other apart)
  file?_eq s other := (h'.file?_eq s other).trans (h.file?_eq s other)

/-- What was read of a file with another name is read of it still. -/
lemma read_eq_ok (h : Spares name d d') (other : p.parts.getLast? ≠ some name)
    (read : d.read p = .ok text) : d'.read p = .ok text := by
  obtain ⟨s, found⟩ := read_eq_ok_iff.mp read
  obtain ⟨located, there, slash⟩ := findFile_eq_ok_iff.mp found
  have named : s.name ≠ name := by
    rintro rfl
    exact other (getLast?_parts_of_locate located)
  have kept : d'.file? s = some text := by
    rw [h.file?_eq s named, file?, there]
  have there' : d'.lookup? s = some (.file text) := by
    unfold file? at kept
    split at kept
    · cases kept
      assumption
    · cases kept
  exact read_eq_ok_iff.mpr ⟨s, findFile_eq_ok_iff.mpr ⟨h.leads p _ located, there', slash⟩⟩

lemma enter_eq_ok (h : Spares name d d') {place : Place} {number : Nat}
    (entered : d.enter place = .ok number) : d'.enter place = .ok number := by
  cases place with
  | directory n => exact entered
  | slot s =>
    simp only [enter] at entered ⊢
    split at entered
    · cases entered
    · cases entered
    · rename_i there
      rw [h.directory s _ there]
      exact entered

lemma findDirectory_eq_ok (h : Spares name d d') {number : Nat}
    (found : d.findDirectory p = .ok number) : d'.findDirectory p = .ok number := by
  unfold findDirectory at found ⊢
  split at found
  · cases found
  · rename_i place located
    rw [h.leads p place located]
    exact h.enter_eq_ok found

lemma base_eq_ok (h : Spares name d d') {number : Nat} (found : d.base p = .ok number) :
    d'.base p = .ok number := by
  unfold base at found ⊢
  split
  · rename_i here
    rw [if_pos here] at found
    rw [h.workDir, found]
  · rename_i given
    rw [if_neg given] at found
    exact h.findDirectory_eq_ok found

/-- What was there under another name is there still. -/
lemma exists?_eq_true (h : Spares name d d') (other : p.parts.getLast? ≠ some name)
    (there : d.exists? p = true) : d'.exists? p = true := by
  unfold exists? at there ⊢
  rw [Bool.or_eq_true] at there ⊢
  rcases there with file | directory
  · left
    cases found : d.findFile p with
    | error e =>
      rw [found] at file
      cases file
    | ok at_slot =>
      obtain ⟨s, text⟩ := at_slot
      obtain ⟨s', found'⟩ := read_eq_ok_iff.mp (h.read_eq_ok other (read_eq_ok_iff.mpr ⟨s, found⟩))
      rw [found']
      rfl
  · right
    unfold isDirectory at directory ⊢
    cases found : d.findDirectory p with
    | error e =>
      rw [found] at directory
      cases directory
    | ok number =>
      rw [h.findDirectory_eq_ok found]
      rfl

lemma put (tidy : d.Tidy) (free : d.NoDirectory s) (text : String) :
    Spares s.name d (d.put s (.file text)) where
  tidy := tidy.put s _
  unshared alone := alone.of_directories fun _ _ => directory_of_lookup?_put
  workDir := rfl
  leads _ _ led := (SameDirectories.put tidy free text).locate_eq_ok tidy (tidy.put s _) led
  directory _ _ there :=
    (SameDirectories.put tidy free text).lookup?_directory tidy (tidy.put s _) there
  vacant _ _ there := .inl (directory_of_lookup?_put there)
  file?_eq _ other := file?_put_of_ne (fun same => other (congrArg Slot.name same).symm) _

lemma drop (tidy : d.Tidy) (there : d.lookup? s = some (.file text)) :
    Spares s.name d (d.drop s) where
  tidy := tidy.drop s
  unshared alone := alone.of_directories fun _ _ => directory_of_lookup?_drop
  workDir := rfl
  leads _ _ led :=
    (SameDirectories.drop tidy (noDirectory_of_file there)).locate_eq_ok tidy (tidy.drop s) led
  directory _ _ at_t :=
    (SameDirectories.drop tidy (noDirectory_of_file there)).lookup?_directory tidy (tidy.drop s)
      at_t
  vacant _ _ there := .inl (directory_of_lookup?_drop there)
  file?_eq _ other := file?_drop_of_ne fun same => other (congrArg Slot.name same).symm

end Spares

/-! ### Making directories -/

/-- The number of a directory at a place is one that the disk knows. -/
def Place.Known (d : Disk) : Place → Prop
  | .directory number => number < d.fresh
  | .slot _ => True

lemma lt_fresh_of_lookup? {number : Nat} (h : d.lookup? s = some (.directory number)) :
    number < d.fresh :=
  Nat.lt_of_le_of_lt (Nat.le_max_right ..) (greatest_lt_fresh d (mem_of_lookup? h))

lemma workDir_lt_fresh (d : Disk) : d.workDir < d.fresh := by
  unfold fresh
  induction d.entries with
  | nil => exact Nat.lt_succ_self _
  | cons first rest ih => exact Nat.lt_of_lt_of_le ih (Nat.le_max_right ..)

lemma above_lt_fresh (d : Disk) (number : Nat) : d.above number < d.fresh := by
  unfold above
  cases found : d.entries.find? (·.2 = .directory number) with
  | none => exact Nat.lt_of_le_of_lt (Nat.zero_le _) (workDir_lt_fresh d)
  | some e =>
    exact Nat.lt_of_le_of_lt (directory_le_greatest e)
      (greatest_lt_fresh d (List.mem_of_find?_eq_some found))

/-- A new directory is above none that was known. -/
lemma above_put_fresh (free : d.lookup? s = none) {number : Nat} (known : number < d.fresh) :
    (d.put s (.directory d.fresh)).above number = d.above number := by
  have untouched : d.entries.filter (·.1 ≠ s) = d.entries := by
    refine List.filter_eq_self.mpr fun e he => ?_
    rw [lookup?, Option.map_eq_none_iff, List.find?_eq_none] at free
    simpa using free e he
  have other : d.fresh ≠ number := Nat.ne_of_gt known
  rw [above, put, untouched, List.find?_cons_of_neg (by simpa using other), above]

lemma enter_put_fresh (free : d.lookup? s = none) {place : Place} {number : Nat}
    (entered : d.enter place = .ok number) :
    (d.put s (.directory d.fresh)).enter place = .ok number := by
  cases place with
  | directory n => exact entered
  | slot t =>
    have apart : s ≠ t := by
      rintro rfl
      simp only [enter, free] at entered
      cases entered
    rw [enter, lookup?_put, if_neg apart]
    exact entered

lemma known_of_enter {place : Place} {number : Nat} (known : place.Known d)
    (entered : d.enter place = .ok number) : number < d.fresh := by
  cases place with
  | directory n =>
    cases entered
    exact known
  | slot t =>
    simp only [enter] at entered
    split at entered
    · cases entered
    · cases entered
    · rename_i there
      cases entered
      exact lt_fresh_of_lookup? there

lemma step_put_fresh (free : d.lookup? s = none) {place next : Place} {part : String}
    (known : place.Known d) (led : d.step place part = .ok next) :
    (d.put s (.directory d.fresh)).step place part = .ok next ∧ next.Known d := by
  obtain ⟨number, entered, follows⟩ := exists_of_step led
  have number_known := known_of_enter known entered
  refine ⟨?_, ?_⟩
  · unfold step at led ⊢
    rw [entered] at led
    rw [enter_put_fresh free entered]
    simpa only [above_put_fresh free number_known] using led
  · cases follows with
    | here => exact number_known
    | up => exact above_lt_fresh d number
    | down => trivial

/-- A new directory is not shared. -/
lemma Unshared.put_fresh (h : d.Unshared) : (d.put s (.directory d.fresh)).Unshared := by
  have old {t : Slot} {number : Nat} (apart : s ≠ t)
      (there : (d.put s (.directory d.fresh)).lookup? t = some (.directory number)) :
      d.lookup? t = some (.directory number) := by
    rwa [lookup?_put, if_neg apart] at there
  have new {number : Nat}
      (there : (d.put s (.directory d.fresh)).lookup? s = some (.directory number)) :
      d.fresh = number := by
    rw [lookup?_put, if_pos rfl] at there
    cases there
    rfl
  intro t u number at_t at_u
  by_cases t_new : s = t <;> by_cases u_new : s = u
  · exact t_new.symm.trans u_new
  · subst t_new
    exact absurd (lt_fresh_of_lookup? (old u_new at_u)) (by rw [new at_t]; exact Nat.lt_irrefl _)
  · subst u_new
    exact absurd (lt_fresh_of_lookup? (old t_new at_t)) (by rw [new at_u]; exact Nat.lt_irrefl _)
  · exact h t u number (old t_new at_t) (old u_new at_u)

lemma known_start (d : Disk) (p : Path) : (d.start p).Known d := by
  have low := workDir_lt_fresh d
  simp only [start, Place.Known, top]
  split
  · exact Nat.lt_of_le_of_lt (Nat.zero_le _) low
  · exact low

/-- A new directory leads no path astray. -/
lemma leads_put_fresh (free : d.lookup? s = none) : Leads d (d.put s (.directory d.fresh)) := by
  have walk (parts : List String) : ∀ {start place : Place}, start.Known d →
      parts.foldlM d.step start = .ok place →
      parts.foldlM (d.put s (.directory d.fresh)).step start = .ok place := by
    induction parts with
    | nil => exact fun _ led => led
    | cons part parts ih =>
      intro start place known led
      obtain ⟨next, first, rest⟩ := List.foldlM_cons_eq_ok_iff.mp led
      obtain ⟨stepped, next_known⟩ := step_put_fresh free known first
      exact List.foldlM_cons_eq_ok_iff.mpr ⟨next, stepped, ih next_known rest⟩
  intro p place led
  obtain ⟨followable, led⟩ := locate_eq_ok_iff.mp led
  exact locate_eq_ok_iff.mpr ⟨followable, walk _ (known_start d p) led⟩

lemma Spares.createDirectory (tidy : d.Tidy) (h : d.createDirectory p = .ok d') :
    Spares name d d' := by
  unfold Disk.createDirectory at h
  split at h
  · cases h
  · cases h
  · rename_i s located
    split at h
    · cases h
    · rename_i free
      cases h
      have none : d.lookup? s = none := by simpa using free
      refine ⟨tidy.put s _, Unshared.put_fresh, rfl, leads_put_fresh none, fun t number there => ?_,
        fun t number there => ?_, fun t _ => ?_⟩
      · have other : s ≠ t := by
          rintro rfl
          rw [none] at there
          cases there
        rw [lookup?_put, if_neg other, there]
      · rw [lookup?_put] at there
        split at there
        · cases there
          exact .inr fun other _ => lookup?_fresh d other
        · exact .inl there
      · by_cases same : s = t
        · subst same
          rw [file?, lookup?_put, if_pos rfl, file?, none]
        · exact file?_put_of_ne same _

end Disk

open Disk (Spares Tidy)

variable {d : Disk} {s : Slot} {name : String}

lemma spares_ensureDirectory (tidy : d.Tidy) (p : Path) :
    Spares name d (ensureDirectory p d).2 := by
  unfold ensureDirectory
  split
  · exact .createDirectory tidy (by assumption)
  · split
    · exact .refl tidy
    · exact .refl tidy

lemma spares_ensureBelow {above : List Path} : ∀ {p : Path} {d : Disk}, d.Tidy →
    Spares name d (ensureBelow p above d).2 := by
  induction above with
  | nil => exact fun tidy => spares_ensureDirectory tidy _
  | cons parent above ih =>
    intro p d tidy
    have first : Spares name d (ensureDirectory p d).2 := spares_ensureDirectory tidy p
    unfold ensureBelow
    split
    · rename_i d' missing
      rw [missing] at first
      refine first.trans ?_
      have parents : Spares name d' (ensureBelow parent above d').2 := ih first.tidy
      rcases made : ensureBelow parent above d' with ⟨_ | _, next⟩
      · rw [Attempt.bind_error made]
        rw [made] at parents
        exact parents
      · rw [Attempt.bind_ok made]
        rw [made] at parents
        exact parents.trans (spares_ensureDirectory parents.tidy p)
    · exact first

/-- Whether or not all directories can be made, no file is touched. -/
lemma spares_makeDirectories (tidy : d.Tidy) (p : Path) :
    Spares name d (makeDirectories p d).2 := by
  unfold makeDirectories
  split
  · exact .refl tidy
  · exact spares_ensureBelow tidy

end Quorum
