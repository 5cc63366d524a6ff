import Quorum.Disk.Directories
import Quorum.Proofs.Disk.Files

/-!
# Names in directories

A path to which a plain name is joined leads to that name, in the directory to which the path leads.
What is put there is read there.
-/

namespace Quorum

namespace Path

variable {name : String}

/-- A path to a name ends in it. -/
lemma getLast?_parts_join (directory : Path) (plain : '/' ∉ name.toList) (named : name ≠ "") :
    (join directory name).parts.getLast? = some name := by
  rw [parts_join directory plain named, List.getLast?_concat]

/-- A path to a name consists of the name and of something before it. -/
lemma exists_toList_join (directory : Path) (plain : '/' ∉ name.toList) :
    ∃ front, (join directory name).toList = front ++ name.toList := by
  simp only [join, isAbsolute_of_not_mem plain]
  split
  · exact ⟨[], rfl⟩
  · split
    · exact ⟨directory.toList, by simp⟩
    · exact ⟨directory.toList ++ ['/'], by simp⟩

/-- A path to a name is not the path to a directory as such. -/
lemma endsInSlash_join (directory : Path) (plain : '/' ∉ name.toList) (named : name ≠ "") :
    (join directory name).endsInSlash = false := by
  have chars : name.toList ≠ [] := fun h => named (String.toList_inj.mp (by simpa using h))
  obtain ⟨front, eq⟩ := exists_toList_join directory plain
  rw [endsInSlash, eq, List.getLast?_append, decide_eq_false_iff_not]
  cases last : name.toList.getLast? with
  | none => exact absurd (List.getLast?_eq_none_iff.mp last) chars
  | some c =>
    rintro ⟨rfl⟩
    exact plain (List.mem_of_getLast? last)

/-- What is joined to a path comes after the whole path. -/
lemma exists_join_eq (directory : Path) (plain : '/' ∉ name.toList) (given : directory ≠ "") :
    ∃ rest, join directory name = directory ++ rest := by
  simp only [join, isAbsolute_of_not_mem plain, Bool.false_eq_true, false_or, if_neg given]
  split
  · exact ⟨name, rfl⟩
  · exact ⟨"/" ++ name, String.append_assoc⟩

/-- The last slash of a path divides it. -/
lemma exists_eq_append (p : Path) : ∃ front name : String, p = front ++ name ∧
    '/' ∉ name.toList ∧ (front = "" ∨ endsInSlash front = true) := by
  have divides (cs : List Char) : ∃ front name : List Char, cs = front ++ name ∧ '/' ∉ name ∧
      (front = [] ∨ front.getLast? = some '/') := by
    induction cs with
    | nil => exact ⟨[], [], rfl, List.not_mem_nil, .inl rfl⟩
    | cons c cs ih =>
      obtain ⟨front, name, rfl, plain, ends⟩ := ih
      by_cases within : front ≠ [] ∨ c = '/'
      · refine ⟨c :: front, name, rfl, plain, .inr ?_⟩
        rcases ends with rfl | ends
        · rcases within with nonempty | rfl
          · exact absurd rfl nonempty
          · rfl
        · rw [List.getLast?_cons, ends, Option.getD_some]
      · obtain ⟨rfl, other⟩ : front = [] ∧ c ≠ '/' := by simpa using within
        refine ⟨[], c :: name, rfl, fun mem => ?_, .inl rfl⟩
        rcases List.mem_cons.mp mem with rfl | mem
        · exact other rfl
        · exact plain mem
  obtain ⟨front, name, eq, plain, ends⟩ := divides p.toList
  refine ⟨String.ofList front, String.ofList name, ?_, by simpa using plain, ?_⟩
  · rw [← String.ofList_append, ← eq, String.ofList_toList]
  · rcases ends with rfl | ends
    · exact .inl rfl
    · right
      simpa [endsInSlash] using ends

/-- After a slash, a name is just added. -/
lemma join_of_endsInSlash {directory : Path} (ends : endsInSlash directory = true)
    (plain : '/' ∉ name.toList) : join directory name = directory ++ name := by
  have given : directory ≠ "" := by
    rintro rfl
    cases ends
  simp [join, isAbsolute_of_not_mem plain, given, ends]

/-- What is joined to a path may be joined to it in two steps. -/
lemma join_append (directory : Path) {front : String} (ends : endsInSlash front = true)
    (plain : '/' ∉ name.toList) :
    join directory (front ++ name) = join (join directory front) name := by
  obtain ⟨body, chars⟩ : ∃ body, front.toList = body ++ ['/'] := by
    rw [endsInSlash, decide_eq_true_eq, List.getLast?_eq_some_iff] at ends
    exact ends
  have absolute : isAbsolute (front ++ name) = isAbsolute front := by
    simp [isAbsolute, chars, List.head?_append]
  have joined_ends : endsInSlash (join directory front) = true := by
    simp only [join]
    split
    · exact ends
    · split <;> simp [endsInSlash, chars, List.getLast?_cons]
  rw [join_of_endsInSlash joined_ends plain]
  simp only [join, absolute]
  split
  · rfl
  · split <;> simp [String.append_assoc]

end Path

namespace Disk

variable {d d' : Disk} {s : Slot} {p directory : Path} {name text : String} {place next : Place}
  {number : Nat}

/-! ### Following a path -/

/-- Where one part of a path leads from a directory. -/
inductive Follows (d : Disk) (number : Nat) : String → Place → Prop
  | here : Follows d number "." (.directory number)
  | up : Follows d number ".." (.directory (d.above number))
  | down {name : String} (named : name ≠ "." ∧ name ≠ "..")
      (short : name.utf8ByteSize ≤ maxNameSize) : Follows d number name (.slot ⟨number, name⟩)

lemma Follows.named {part : String} (h : d.Follows number part (.slot s)) :
    (part ≠ "." ∧ part ≠ "..") ∧ part.utf8ByteSize ≤ maxNameSize := by
  cases h with
  | down named short => exact ⟨named, short⟩

lemma exists_of_step {part : String} (h : d.step place part = .ok next) :
    ∃ number, d.enter place = .ok number ∧ d.Follows number part next := by
  unfold step at h
  split at h
  · cases h
  · rename_i number entered
    refine ⟨number, entered, ?_⟩
    split at h
    · rename_i here
      cases h
      exact here ▸ .here
    · rename_i not_here
      split at h
      · rename_i up
        cases h
        exact up ▸ .up
      · rename_i not_up
        split at h
        · cases h
        · rename_i short
          cases h
          exact .down ⟨not_here, not_up⟩ (Nat.not_lt.mp short)

/-- A path to a name ends in that name, and leads to it from the directory where it stands. -/
lemma follows_of_locate (h : d.locate p = .ok (.slot s)) :
    p.parts.getLast? = some s.name ∧ d.Follows s.directory s.name (.slot s) := by
  have walk (parts : List String) : ∀ {start : Place}, parts.foldlM d.step start = .ok (.slot s) →
      start = .slot s ∧ parts = [] ∨
        parts.getLast? = some s.name ∧ d.Follows s.directory s.name (.slot s) := by
    induction parts with
    | nil =>
      intro start led
      cases led
      exact .inl ⟨rfl, rfl⟩
    | cons part parts ih =>
      intro start led
      obtain ⟨next, first, rest⟩ := List.foldlM_cons_eq_ok_iff.mp led
      rcases ih rest with ⟨rfl, rfl⟩ | ⟨last, follows⟩
      · -- the last part is the name to which it leads
        obtain ⟨number, _, follows⟩ := exists_of_step first
        cases follows with
        | down named short => exact .inr ⟨rfl, .down named short⟩
      · refine .inr ⟨?_, follows⟩
        cases parts with
        | nil => cases last
        | cons => exact last
  obtain ⟨_, led⟩ := locate_eq_ok_iff.mp h
  rcases walk _ led with ⟨start, _⟩ | found
  · cases start
  · exact found

lemma getLast?_parts_of_locate (h : d.locate p = .ok (.slot s)) :
    p.parts.getLast? = some s.name :=
  (follows_of_locate h).1

/-! ### Joined names -/

/-- The directory in which the names stand that are joined to a path. -/
def base (d : Disk) (directory : Path) : Except IoError Nat :=
  if directory = "" then .ok d.workDir else d.findDirectory directory

/-- A path to a name in a directory leads through the directory. -/
lemma exists_of_locate_join (plain : '/' ∉ name.toList)
    (named : name ≠ "" ∧ name ≠ "." ∧ name ≠ "..")
    (h : d.locate (Path.join directory name) = .ok place) :
    ∃ number, d.base directory = .ok number ∧ place = .slot ⟨number, name⟩ := by
  obtain ⟨followable, led⟩ := locate_eq_ok_iff.mp h
  have at_last {start : Place} (led : [name].foldlM d.step start = .ok place) :
      ∃ number, d.enter start = .ok number ∧ place = .slot ⟨number, name⟩ := by
    obtain ⟨_, stepped, ⟨⟩⟩ := List.foldlM_cons_eq_ok_iff.mp led
    obtain ⟨number, entered, follows⟩ := exists_of_step stepped
    cases follows with
    | here => exact absurd rfl named.2.1
    | up => exact absurd rfl named.2.2
    | down => exact ⟨number, entered, rfl⟩
  rw [Path.parts_join directory plain named.1] at led
  by_cases given : directory = ""
  · subst given
    have join_eq : Path.join "" name = name := by simp [Path.join]
    rw [start, join_eq, Path.isAbsolute_of_not_mem plain] at led
    obtain ⟨number, entered, rfl⟩ := at_last led
    cases entered
    exact ⟨_, rfl, rfl⟩
  · obtain ⟨middle, before, last⟩ := List.foldlM_append_eq_ok_iff.mp led
    obtain ⟨number, entered, rfl⟩ := at_last last
    obtain ⟨rest, join_eq⟩ := Path.exists_join_eq directory plain given
    have shorter : Followable directory := by
      obtain ⟨nonzero, _, fits⟩ := followable
      rw [join_eq] at nonzero fits
      refine ⟨fun mem => nonzero (by simp [mem]), given, Nat.le_trans ?_ fits⟩
      simp
    rw [start, Path.isAbsolute_join plain given] at before
    refine ⟨number, ?_, rfl⟩
    rw [base, if_neg given, findDirectory, locate_eq_ok_iff.mpr ⟨shorter, before⟩]
    exact entered

lemma name_of_locate_join (plain : '/' ∉ name.toList)
    (named : name ≠ "" ∧ name ≠ "." ∧ name ≠ "..")
    (h : d.locate (Path.join directory name) = .ok (.slot s)) : s.name = name := by
  obtain ⟨_, _, slot_eq⟩ := exists_of_locate_join plain named h
  cases slot_eq
  rfl

/-- A plain name is found in the directory that its path leads to. -/
lemma locate_join_of_base (found : d.base directory = .ok number)
    (plain : '/' ∉ name.toList ∧ '\x00' ∉ name.toList)
    (named : name ≠ "" ∧ name ≠ "." ∧ name ≠ "..") (short : name.utf8ByteSize ≤ maxNameSize)
    (fits : (Path.join directory name).utf8ByteSize ≤ maxPathSize) :
    d.locate (Path.join directory name) = .ok (.slot ⟨number, name⟩) := by
  unfold base at found
  split at found
  · rename_i here
    subst here
    cases found
    have join_eq : Path.join "" name = name := by simp [Path.join]
    rw [join_eq] at fits ⊢
    refine locate_eq_ok_iff.mpr ⟨⟨plain.2, named.1, fits⟩, ?_⟩
    rw [start, Path.parts_of_not_mem plain.1 named.1, Path.isAbsolute_of_not_mem plain.1]
    refine List.foldlM_cons_eq_ok_iff.mpr ⟨_, ?_, rfl⟩
    simp [step, enter, named.2.1, named.2.2, Nat.not_lt.mpr short]
  · exact locate_join d found plain named short fits

/-! ### New files, and files that grow -/

lemma exists_of_createNew (h : d.createNew p = .ok d') :
    ∃ s, d.locate p = .ok (.slot s) ∧ d.lookup? s = none ∧ p.endsInSlash = false ∧
      d' = d.put s (.file "") := by
  unfold createNew at h
  split at h
  · cases h
  · cases h
  · rename_i s located
    split at h
    · cases h
    · rename_i slash
      split at h
      · cases h
      · rename_i free
        exact ⟨s, located, by simpa using free, by simpa using slash, (Except.ok.inj h).symm⟩

lemma noDirectory_of_none (h : d.lookup? s = none) : d.NoDirectory s := by
  intro number there
  rw [h] at there
  cases there

/-- A file that is put where a path leads is read there. -/
lemma read_put (tidy : d.Tidy) (located : d.locate p = .ok (.slot s)) (free : d.NoDirectory s)
    (slash : p.endsInSlash = false) : (d.put s (.file text)).read p = .ok text := by
  have located := (SameDirectories.put tidy free text).locate_eq_ok tidy (tidy.put s _) located
  have there : (d.put s (.file text)).lookup? s = some (.file text) := by
    rw [lookup?_put, if_pos rfl]
  exact read_eq_ok_iff.mpr ⟨s, findFile_eq_ok_iff.mpr ⟨located, there, slash⟩⟩

/-- A new file is made only where none can be read, and is empty. -/
lemma read_of_createNew (tidy : d.Tidy) (h : d.createNew p = .ok d') :
    d'.Tidy ∧ d'.read p = .ok "" ∧ ∀ text, d.read p ≠ .ok text := by
  obtain ⟨s, located, free, slash, rfl⟩ := exists_of_createNew h
  refine ⟨tidy.put s _, read_put tidy located (noDirectory_of_none free) slash, fun text read => ?_⟩
  obtain ⟨s', found⟩ := read_eq_ok_iff.mp read
  obtain ⟨located', there, _⟩ := findFile_eq_ok_iff.mp found
  obtain rfl : s' = s := by
    rw [located] at located'
    cases located'
    rfl
  rw [free] at there
  cases there

/-- A text is added to what could be read. -/
lemma read_of_append (tidy : d.Tidy) (h : d.append p text = .ok d') :
    d'.Tidy ∧ ∃ old, d.read p = .ok old ∧ d'.read p = .ok (old ++ text) := by
  obtain ⟨s, old, found, rfl⟩ := exists_of_append h
  obtain ⟨located, there, slash⟩ := findFile_eq_ok_iff.mp found
  refine ⟨tidy.put s _, old, read_eq_ok_iff.mpr ⟨s, found⟩, ?_⟩
  exact read_put tidy located (noDirectory_of_file there) slash

end Disk

/-! ### Directories that are there -/

variable {d : Disk}

/-- A directory that is there is not made. -/
lemma makeDirectories_of_isDirectory {p : Path} (h : d.isDirectory p = true) :
    makeDirectories p d = (.ok (), d) := by
  have exists_already : d.createDirectory p = .error .alreadyExists := by
    unfold Disk.isDirectory Disk.findDirectory at h
    unfold Disk.createDirectory
    cases located : d.locate p with
    | error e =>
      rw [located] at h
      cases h
    | ok place =>
      rw [located] at h
      cases place with
      | directory number => rfl
      | slot s =>
        simp only [Disk.enter] at h
        split at h
        · cases h
        · cases h
        · rename_i there
          simp [there]
  have ensured : ensureDirectory p d = (.ok (), d) := by
    simp [ensureDirectory, exists_already, h]
  unfold makeDirectories
  split
  · rfl
  · cases p.parents with
    | nil => exact ensured
    | cons parent above => simp [ensureBelow, ensured]

/-- The directory of a file that can be reached is not made. -/
lemma makeDirectories_of_locate_join {directory : Path} {name : String} {place : Disk.Place}
    (plain : '/' ∉ name.toList) (named : name ≠ "" ∧ name ≠ "." ∧ name ≠ "..")
    (h : d.locate (Path.join directory name) = .ok place) :
    makeDirectories directory d = (.ok (), d) := by
  obtain ⟨number, found, _⟩ := Disk.exists_of_locate_join plain named h
  by_cases given : directory = ""
  · rw [makeDirectories, if_pos given]
    rfl
  · rw [Disk.base, if_neg given] at found
    refine makeDirectories_of_isDirectory ?_
    rw [Disk.isDirectory, found]
    rfl

end Quorum
