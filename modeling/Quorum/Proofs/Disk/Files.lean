import Mathlib.Tactic.Lemma
import Quorum.Disk.Plan

/-!
# What file operations leave in place

On a disk where no name stands twice, changes to files lead no path astray: every path that led
somewhere leads there still. What a file operation does is read off its success.
-/

namespace List

variable {ε α β : Type} {f : β → α → Except ε β} {b c : β}

/-- A fold that succeeds has succeeded with the first element. -/
lemma foldlM_cons_eq_ok_iff {a : α} {as : List α} : (a :: as).foldlM f b = .ok c ↔
    ∃ next, f b a = .ok next ∧ as.foldlM f next = .ok c := by
  rw [foldlM_cons]
  cases f b a with
  | error e => exact ⟨nofun, nofun⟩
  | ok next =>
    constructor
    · exact fun rest => ⟨next, rfl, rest⟩
    · rintro ⟨_, ⟨rfl⟩, rest⟩
      exact rest

lemma foldlM_append_eq_ok_iff {as as' : List α} : (as ++ as').foldlM f b = .ok c ↔
    ∃ next, as.foldlM f b = .ok next ∧ as'.foldlM f next = .ok c := by
  induction as generalizing b with
  | nil =>
    constructor
    · exact fun rest => ⟨b, rfl, rest⟩
    · rintro ⟨_, ⟨rfl⟩, rest⟩
      exact rest
  | cons a as ih =>
    simp only [cons_append, foldlM_cons_eq_ok_iff, ih]
    constructor
    · rintro ⟨first, h, next, before, rest⟩
      exact ⟨next, ⟨first, h, before⟩, rest⟩
    · rintro ⟨next, ⟨first, h, before⟩, rest⟩
      exact ⟨first, h, next, before, rest⟩

end List

namespace Quorum

def Entry.isDirectory : Entry → Bool
  | .file _ => false
  | .directory _ => true

namespace Disk

variable {d d' : Disk} {s t : Slot} {p : Path} {text : String}

/-- No name stands twice in the table. -/
def Tidy (d : Disk) : Prop :=
  d.entries.Pairwise (·.1 ≠ ·.1)

lemma mem_of_lookup? {e : Entry} (h : d.lookup? s = some e) : (s, e) ∈ d.entries := by
  obtain ⟨⟨s', e'⟩, found, rfl⟩ := Option.map_eq_some_iff.mp h
  have at_s : s' = s := by simpa using List.find?_some found
  exact at_s ▸ List.mem_of_find?_eq_some found

/-- What stands in a tidy table is found. -/
lemma Tidy.lookup?_eq_some_iff (tidy : d.Tidy) {e : Entry} :
    d.lookup? s = some e ↔ (s, e) ∈ d.entries := by
  refine ⟨mem_of_lookup?, fun mem => ?_⟩
  unfold Tidy at tidy
  unfold lookup?
  generalize d.entries = es at tidy mem ⊢
  induction es with
  | nil => cases mem
  | cons first rest ih =>
    obtain ⟨apart, rest_tidy⟩ := List.pairwise_cons.mp tidy
    rcases List.mem_cons.mp mem with rfl | mem
    · simp
    · have other : first.1 ≠ s := apart _ mem
      rw [List.find?_cons_of_neg (by simpa using other)]
      exact ih rest_tidy mem

lemma Tidy.drop (tidy : d.Tidy) (s : Slot) : (d.drop s).Tidy :=
  List.Pairwise.filter _ tidy

lemma Tidy.put (tidy : d.Tidy) (s : Slot) (e : Entry) : (d.put s e).Tidy := by
  refine List.pairwise_cons.mpr ⟨fun x hx => ?_, tidy.drop s⟩
  have other := (List.mem_filter.mp hx).2
  exact fun same => by simp [← same] at other

/-! ### Where a path leads -/

/-- What the text of a path that leads somewhere must be like. -/
structure Followable (p : Path) : Prop where
  nonzero : '\x00' ∉ p.toList
  given : p ≠ ""
  fits : p.utf8ByteSize ≤ maxPathSize

/-- Where a path starts. -/
def start (d : Disk) (p : Path) : Place :=
  .directory (if p.isAbsolute then top else d.workDir)

/-- A path leads somewhere by its parts. -/
lemma locate_eq_ok_iff {place : Place} : d.locate p = .ok place ↔
    Followable p ∧ p.parts.foldlM d.step (d.start p) = .ok place := by
  unfold locate
  constructor
  · intro located
    split at located
    · cases located
    · rename_i nonzero
      split at located
      · cases located
      · rename_i given
        split at located
        · cases located
        · rename_i fits
          exact ⟨⟨nonzero, given, Nat.not_lt.mp fits⟩, located⟩
  · rintro ⟨⟨nonzero, given, fits⟩, led⟩
    rw [if_neg nonzero, if_neg given, if_neg (Nat.not_lt.mpr fits)]
    exact led

/-! ### Directories that stay -/

/-- The disks differ in files only. -/
structure SameDirectories (d d' : Disk) : Prop where
  workDir : d'.workDir = d.workDir
  entries : d'.entries.filter (·.2.isDirectory) = d.entries.filter (·.2.isDirectory)

/-- There is no directory under a name. -/
def NoDirectory (d : Disk) (s : Slot) : Prop :=
  ∀ number, d.lookup? s ≠ some (.directory number)

lemma noDirectory_of_file (h : d.lookup? s = some (.file text)) : d.NoDirectory s := by
  intro number there
  rw [h] at there
  cases there

namespace SameDirectories

lemma trans {d'' : Disk} (h : SameDirectories d d') (h' : SameDirectories d' d'') :
    SameDirectories d d'' :=
  ⟨h'.workDir.trans h.workDir, h'.entries.trans h.entries⟩

lemma drop (tidy : d.Tidy) (free : d.NoDirectory s) : SameDirectories d (d.drop s) := by
  refine ⟨rfl, ?_⟩
  rw [Disk.drop, List.filter_filter]
  refine List.filter_congr fun x hx => ?_
  obtain ⟨s', e⟩ := x
  cases e with
  | file => simp [Entry.isDirectory]
  | directory number =>
    have other : s' ≠ s := by
      rintro rfl
      exact free number (tidy.lookup?_eq_some_iff.mpr hx)
    simp [Entry.isDirectory, other]

lemma put (tidy : d.Tidy) (free : d.NoDirectory s) (text : String) :
    SameDirectories d (d.put s (.file text)) := by
  refine ⟨rfl, ?_⟩
  rw [Disk.put, List.filter_cons_of_neg (by simp [Entry.isDirectory])]
  exact (drop tidy free).entries

lemma lookup?_directory (h : SameDirectories d d') (tidy : d.Tidy) (tidy' : d'.Tidy) {number : Nat}
    (there : d.lookup? s = some (.directory number)) :
    d'.lookup? s = some (.directory number) := by
  rw [Tidy.lookup?_eq_some_iff (by assumption)] at there ⊢
  have mem : (s, Entry.directory number) ∈ d.entries.filter (·.2.isDirectory) :=
    List.mem_filter.mpr ⟨there, rfl⟩
  rw [← h.entries] at mem
  exact (List.mem_filter.mp mem).1

lemma above_eq (h : SameDirectories d d') (number : Nat) : d'.above number = d.above number := by
  have among (es : List (Slot × Entry)) :
      (es.filter (·.2.isDirectory)).find? (·.2 = .directory number)
        = es.find? (·.2 = .directory number) := by
    rw [List.find?_filter]
    congr 1
    funext x
    obtain ⟨s, _ | n⟩ := x <;> simp [Entry.isDirectory]
  rw [above, above, ← among d'.entries, h.entries, among]

lemma step_eq_ok (h : SameDirectories d d') (tidy : d.Tidy) (tidy' : d'.Tidy) {place next : Place}
    {part : String} (led : d.step place part = .ok next) : d'.step place part = .ok next := by
  have enters {number : Nat} (entered : d.enter place = .ok number) :
      d'.enter place = .ok number := by
    cases place with
    | directory n => exact entered
    | slot s =>
      simp only [enter] at entered
      split at entered
      · cases entered
      · cases entered
      · rename_i there
        cases entered
        rw [enter, h.lookup?_directory tidy tidy' there]
  unfold step at led ⊢
  split at led
  · cases led
  · rename_i number entered
    rw [enters entered]
    simpa only [h.above_eq] using led

/-- A path that led somewhere still leads there. -/
lemma locate_eq_ok (h : SameDirectories d d') (tidy : d.Tidy) (tidy' : d'.Tidy) {place : Place}
    (led : d.locate p = .ok place) : d'.locate p = .ok place := by
  have walk (parts : List String) : ∀ {start : Place}, parts.foldlM d.step start = .ok place →
      parts.foldlM d'.step start = .ok place := by
    induction parts with
    | nil => exact fun led => led
    | cons part parts ih =>
      intro start led
      obtain ⟨next, first, rest⟩ := List.foldlM_cons_eq_ok_iff.mp led
      exact List.foldlM_cons_eq_ok_iff.mpr ⟨next, h.step_eq_ok tidy tidy' first, ih rest⟩
  obtain ⟨followable, led⟩ := locate_eq_ok_iff.mp led
  have start_eq : d'.start p = d.start p := by rw [start, h.workDir, start]
  exact locate_eq_ok_iff.mpr ⟨followable, start_eq ▸ walk _ led⟩

end SameDirectories

/-! ### What success tells -/

lemma findFile_eq_ok_iff : d.findFile p = .ok (s, text) ↔
    d.locate p = .ok (.slot s) ∧ d.lookup? s = some (.file text) ∧ p.endsInSlash = false := by
  unfold findFile
  constructor
  · intro found
    split at found
    · cases found
    · cases found
    · rename_i slot located
      split at found
      · cases found
      · cases found
      · rename_i there
        split at found
        · cases found
        · rename_i slash
          cases found
          exact ⟨located, there, by simpa using slash⟩
  · rintro ⟨located, there, slash⟩
    rw [located]
    simp [there, slash]

lemma exists_of_fileSlot (h : d.fileSlot p = .ok s) :
    d.locate p = .ok (.slot s) ∧ d.NoDirectory s ∧ p.endsInSlash = false := by
  unfold fileSlot at h
  split at h
  · cases h
  · cases h
  · rename_i slot located
    split at h
    · cases h
    · rename_i free
      split at h
      · cases h
      · rename_i slash
        cases h
        exact ⟨located, free, by simpa using slash⟩

lemma exists_of_write (h : d.write p text = .ok d') :
    ∃ s, d.fileSlot p = .ok s ∧ d' = d.put s (.file text) := by
  unfold write at h
  split at h
  · cases h
  · rename_i s found
    exact ⟨s, found, (Except.ok.inj h).symm⟩

lemma exists_of_append (h : d.append p text = .ok d') :
    ∃ s old, d.findFile p = .ok (s, old) ∧ d' = d.put s (.file (old ++ text)) := by
  unfold append at h
  split at h
  · cases h
  · rename_i s old found
    exact ⟨s, old, found, (Except.ok.inj h).symm⟩

lemma exists_of_remove (h : d.remove p = .ok d') :
    ∃ s text, d.findFile p = .ok (s, text) ∧ d' = d.drop s := by
  unfold remove at h
  split at h
  · cases h
  · rename_i s text found
    exact ⟨s, text, found, (Except.ok.inj h).symm⟩

lemma exists_of_copy {source target : Path} (h : d.copy source target = .ok d') :
    ∃ text, d.read source = .ok text ∧ d.write target text = .ok d' := by
  unfold copy at h
  split at h
  · cases h
  · cases h
  · rename_i text read
    exact ⟨text, read, h⟩

lemma read_eq_ok_iff : d.read p = .ok text ↔ ∃ s, d.findFile p = .ok (s, text) := by
  unfold read
  split
  · rename_i e failed
    simp [failed]
  · rename_i s' text' found
    simp [found]

lemma exists?_of_read (h : d.read p = .ok text) : d.exists? p = true := by
  obtain ⟨s, found⟩ := read_eq_ok_iff.mp h
  simp [exists?, found, Except.isOk, Except.toBool]

/-- A move keeps everything in place, or takes the source away and puts it at the target. -/
lemma move_cases {e : Entry} (h : d.move s t e = .ok d') :
    d' = d ∨ d' = (d.drop s).put t e := by
  unfold move at h
  split at h
  · cases h
  · exact .inr (Except.ok.inj h).symm
  · split at h
    · exact .inl (Except.ok.inj h).symm
    · split at h
      · cases h
      · split at h
        · cases h
        · split at h
          · exact .inr (Except.ok.inj h).symm
          · cases h
        · exact .inr (Except.ok.inj h).symm

/-- A file is moved only where no directory is. -/
lemma eq_of_move_file (h : d.move s t (.file text) = .ok d') :
    d.NoDirectory t ∧ d' = (d.drop s).put t (.file text) := by
  unfold move at h
  split at h
  · cases h
  · rename_i free
    exact ⟨free, (Except.ok.inj h).symm⟩
  · rename_i other
    cases other

lemma NoDirectory.drop (free : d.NoDirectory t) (s : Slot) : (d.drop s).NoDirectory t := by
  intro number there
  rw [lookup?_drop] at there
  split at there
  · cases there
  · exact free number there

lemma exists_of_rename {source target : Path} (h : d.rename source target = .ok d') :
    ∃ s t e, d.locate source = .ok (.slot s) ∧ d.locate target = .ok (.slot t) ∧
      d.lookup? s = some e ∧ d.move s t e = .ok d' ∧
      (d.isDirectory source = false → target.endsInSlash = false) := by
  unfold rename at h
  split at h
  · cases h
  · cases h
  · cases h
  · cases h
  · rename_i s t source_eq target_eq
    split at h
    · cases h
    · rename_i e there
      split at h
      · cases h
      · rename_i slash
        refine ⟨s, t, e, source_eq, target_eq, there, h, fun file => ?_⟩
        simp [file] at slash
        exact slash.2

/-! ### Tidiness of what follows -/

lemma Tidy.write (tidy : d.Tidy) (h : d.write p text = .ok d') : d'.Tidy := by
  obtain ⟨s, _, rfl⟩ := exists_of_write h
  exact tidy.put s _

/-- File operations keep a disk tidy. -/
lemma Tidy.apply (tidy : d.Tidy) {op : FileOp} (h : op.apply d = .ok d') : d'.Tidy := by
  cases op with
  | remove path =>
    obtain ⟨s, text, _, rfl⟩ := exists_of_remove h
    exact tidy.drop s
  | rename source target =>
    obtain ⟨s, t, e, _, _, _, moved, _⟩ := exists_of_rename h
    rcases move_cases moved with rfl | rfl
    · exact tidy
    · exact (tidy.drop s).put t e
  | copy source target =>
    obtain ⟨text, _, written⟩ := exists_of_copy h
    exact tidy.write written
  | create path => exact tidy.write h
  | append path text =>
    obtain ⟨s, old, _, rfl⟩ := exists_of_append h
    exact tidy.put s _
  | sync path =>
    cases h
    exact tidy

end Disk

end Quorum
