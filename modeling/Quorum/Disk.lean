import Quorum.Disk.Error
import Quorum.Disk.Path

/-!
# Disks

Directories and text files. A directory is known by a number, and a disk is the table of what each
directory holds under which name. A path leads from directory to directory; only its last name may
lead to a file or to nothing. Every operation either succeeds or tells why it cannot be done.

Symbolic links, hard links and contents that are not UTF-8 are not modelled: what stands under a
name is a text or a directory itself, and nothing stands under two names.
-/

namespace Quorum

/-- A name in the directory with a number. -/
structure Slot where
  directory : Nat
  name : String
deriving DecidableEq, Repr

/-- What can be found under a name. -/
inductive Entry where
  /-- A file, by its text. It is no link, no other name stands for it, and it is all UTF-8. -/
  | file (text : String)
  | directory (number : Nat)
deriving DecidableEq

/-- The directories and files of a system without symbolic or hard links, with texts in UTF-8. -/
structure Disk where
  /-- The directory from which paths lead that do not say where they start. -/
  workDir : Nat
  entries : List (Slot × Entry)
deriving DecidableEq

namespace Disk

/-- The directory at the top. -/
def top : Nat := 0

/-- A disk without files, at work at its top. -/
def blank : Disk := ⟨top, []⟩

/-! ### The table -/

def lookup? (d : Disk) (s : Slot) : Option Entry :=
  (d.entries.find? (·.1 = s)).map (·.2)

/-- Puts something under a name, whatever was there. -/
def put (d : Disk) (s : Slot) (e : Entry) : Disk :=
  { d with entries := (s, e) :: d.entries.filter (·.1 ≠ s) }

/-- Leaves nothing under a name. -/
def drop (d : Disk) (s : Slot) : Disk :=
  { d with entries := d.entries.filter (·.1 ≠ s) }

/-- The greatest number of a directory that an entry speaks of. -/
def greatest (e : Slot × Entry) : Nat :=
  match e.2 with
  | .file _ => e.1.directory
  | .directory number => max e.1.directory number

/-- A number beyond those of all directories. -/
def fresh (d : Disk) : Nat :=
  d.entries.foldr (fun e n => max (greatest e + 1) n) (d.workDir + 1)

/-- The directory above a directory; the top is above itself. -/
def above (d : Disk) (number : Nat) : Nat :=
  ((d.entries.find? (·.2 = .directory number)).map (·.1.directory)).getD top

/-- The names in a directory, in increasing order. -/
def names (d : Disk) (number : Nat) : List String :=
  let found := d.entries.filterMap fun e =>
    if e.1.directory = number then some e.1.name else none
  found.mergeSort fun a b => !decide (b < a)

/-! ### Where a path leads -/

/-- The most bytes that a name may have. -/
def maxNameSize : Nat := 255

/-- The most bytes that a path may have. -/
def maxPathSize : Nat := 4095

/-- Where a path leads: to a directory itself, or to a name in one, which may have nothing to it. -/
inductive Place where
  | directory (number : Nat)
  | slot (s : Slot)
deriving DecidableEq, Repr

/-- The directory at a place. -/
def enter (d : Disk) : Place → Except IoError Nat
  | .directory number => .ok number
  | .slot s =>
    match d.lookup? s with
    | none => .error .notFound
    | some (.file _) => .error .notDirectory
    | some (.directory number) => .ok number

/-- Follows one part of a path into the directory at a place: a point stays there, two points lead
back, and any other part is a name in it. -/
def step (d : Disk) (place : Place) (part : String) : Except IoError Place :=
  match d.enter place with
  | .error e => .error e
  | .ok number =>
    if part = "." then .ok (.directory number)
    else if part = ".." then .ok (.directory (d.above number))
    else if maxNameSize < part.utf8ByteSize then .error .nameTooLong
    else .ok (.slot ⟨number, part⟩)

/-- The place to which a path leads. -/
def locate (d : Disk) (p : Path) : Except IoError Place :=
  if '\x00' ∈ p.toList then .error .zeroInName
  else if p = "" then .error .notFound
  else if maxPathSize < p.utf8ByteSize then .error .nameTooLong
  else p.parts.foldlM d.step (.directory (if p.isAbsolute then top else d.workDir))

/-- The directory to which a path leads. -/
def findDirectory (d : Disk) (p : Path) : Except IoError Nat :=
  match d.locate p with
  | .error e => .error e
  | .ok place => d.enter place

/-- The file to which a path leads, by its name and its text. -/
def findFile (d : Disk) (p : Path) : Except IoError (Slot × String) :=
  match d.locate p with
  | .error e => .error e
  | .ok (.directory _) => .error .isDirectory
  | .ok (.slot s) =>
    match d.lookup? s with
    | none => .error .notFound
    | some (.directory _) => .error .isDirectory
    | some (.file text) => if p.endsInSlash then .error .notDirectory else .ok (s, text)

/-- The name under which a path lets a file be put, in place of the one that is there. -/
def fileSlot (d : Disk) (p : Path) : Except IoError Slot :=
  match d.locate p with
  | .error e => .error e
  | .ok (.directory _) => .error .isDirectory
  | .ok (.slot s) =>
    match d.lookup? s with
    | some (.directory _) => .error .isDirectory
    | _ => if p.endsInSlash then .error .isDirectory else .ok s

/-- Whether a path leads to a directory. -/
def isDirectory (d : Disk) (p : Path) : Bool :=
  (d.findDirectory p).isOk

/-- Whether a path leads to something. -/
def exists? (d : Disk) (p : Path) : Bool :=
  (d.findFile p).isOk || d.isDirectory p

/-! ### Files -/

def read (d : Disk) (p : Path) : Except IoError String :=
  match d.findFile p with
  | .error e => .error e
  | .ok (_, text) => .ok text

/-- Makes a file with a text, in place of the one that is there. -/
def write (d : Disk) (p : Path) (text : String) : Except IoError Disk :=
  match d.fileSlot p with
  | .error e => .error e
  | .ok s => .ok (d.put s (.file text))

/-- Makes an empty file where nothing is. -/
def createNew (d : Disk) (p : Path) : Except IoError Disk :=
  match d.locate p with
  | .error e => .error e
  | .ok (.directory _) => .error .alreadyExists
  | .ok (.slot s) =>
    if p.endsInSlash then .error .isDirectory
    else if (d.lookup? s).isSome then .error .alreadyExists
    else .ok (d.put s (.file ""))

/-- Adds a text at the end of a file. -/
def append (d : Disk) (p : Path) (text : String) : Except IoError Disk :=
  match d.findFile p with
  | .error e => .error e
  | .ok (s, old) => .ok (d.put s (.file (old ++ text)))

def remove (d : Disk) (p : Path) : Except IoError Disk :=
  match d.findFile p with
  | .error e => .error e
  | .ok (s, _) => .ok (d.drop s)

/-- Copies a file, in place of the one that is there. -/
def copy (d : Disk) (source target : Path) : Except IoError Disk :=
  match d.read source with
  | .error .isDirectory => .error .notFile
  | .error e => .error e
  | .ok text => d.write target text

/-! ### Directories -/

/-- The names in a directory, in increasing order. -/
def list (d : Disk) (p : Path) : Except IoError (List String) :=
  match d.findDirectory p with
  | .error e => .error e
  | .ok number => .ok (d.names number)

/-- Makes a directory where nothing is. -/
def createDirectory (d : Disk) (p : Path) : Except IoError Disk :=
  match d.locate p with
  | .error e => .error e
  | .ok (.directory _) => .error .alreadyExists
  | .ok (.slot s) =>
    if (d.lookup? s).isSome then .error .alreadyExists else .ok (d.put s (.directory d.fresh))

/-! ### Renaming -/

/-- The directories from one upwards; the fuel bounds how far. -/
def upwards (d : Disk) : Nat → Nat → List Nat
  | 0, _ => []
  | fuel + 1, number => number :: d.upwards fuel (d.above number)

/-- Whether a directory is another one or somewhere below it. -/
def isWithin (d : Disk) (number outer : Nat) : Bool :=
  (d.upwards (d.entries.length + 1) number).contains outer

/-- Gives a file or a directory another name, in place of the file or the empty directory that has
it; a directory cannot be moved below itself. -/
def move (d : Disk) (source target : Slot) (e : Entry) : Except IoError Disk :=
  let done := (d.drop source).put target e
  match e, d.lookup? target with
  | .file _, some (.directory _) => .error .isDirectory
  | .file _, _ => .ok done
  | .directory number, there =>
    if source = target then .ok d
    else if d.isWithin target.directory number then .error .invalidArgument
    else
      match there with
      | some (.file _) => .error .notDirectory
      | some (.directory other) => if d.names other = [] then .ok done else .error .notEmpty
      | none => .ok done

/-- Gives a file or a directory another path. -/
def rename (d : Disk) (source target : Path) : Except IoError Disk :=
  match d.locate source, d.locate target with
  | .error e, _ | .ok _, .error e => .error e
  | .ok (.directory _), _ | _, .ok (.directory _) => .error .busy
  | .ok (.slot s), .ok (.slot t) =>
    match d.lookup? s with
    | none => .error .notFound
    | some e =>
      if !d.isDirectory source && (source.endsInSlash || target.endsInSlash) then
        .error .notDirectory
      else d.move s t e

/-! ### What is where -/

theorem find?_filter_other {s t : Slot} (es : List (Slot × Entry)) (h : s ≠ t) :
    (es.filter (·.1 ≠ s)).find? (·.1 = t) = es.find? (·.1 = t) := by
  rw [List.find?_filter]
  congr 1
  funext x
  by_cases hx : x.1 = t
  · simp [hx, Ne.symm h]
  · simp [hx]

theorem lookup?_drop (d : Disk) (s t : Slot) :
    (d.drop s).lookup? t = if s = t then none else d.lookup? t := by
  unfold lookup? drop
  by_cases h : s = t
  · subst h; simp [List.find?_filter]
  · rw [if_neg h, find?_filter_other _ h]

theorem lookup?_put (d : Disk) (s t : Slot) (e : Entry) :
    (d.put s e).lookup? t = if s = t then some e else d.lookup? t := by
  unfold lookup? put
  by_cases h : s = t
  · subst h; simp
  · rw [if_neg h, List.find?_cons_of_neg (by simpa using h), find?_filter_other _ h]

theorem directory_le_greatest (e : Slot × Entry) : e.1.directory ≤ greatest e := by
  unfold greatest
  split
  · exact Nat.le_refl _
  · exact Nat.le_max_left ..

theorem greatest_lt_fresh (d : Disk) {e : Slot × Entry} (h : e ∈ d.entries) :
    greatest e < d.fresh := by
  unfold fresh
  generalize d.entries = es at h ⊢
  induction es with
  | nil => cases h
  | cons first rest ih =>
    rw [List.foldr_cons]
    rcases List.mem_cons.1 h with rfl | h
    · omega
    · have := ih h
      omega

/-- A new directory is empty. -/
theorem lookup?_fresh (d : Disk) (name : String) : d.lookup? ⟨d.fresh, name⟩ = none := by
  unfold lookup?
  rw [Option.map_eq_none_iff, List.find?_eq_none]
  intro e h eq
  have low := greatest_lt_fresh d h
  have := directory_le_greatest e
  rw [of_decide_eq_true eq] at this
  exact absurd low (Nat.not_lt.2 this)

/-- A plain name leads from a directory to that name in it. -/
theorem locate_join (d : Disk) {directory : Path} {number : Nat} {name : String}
    (way : d.findDirectory directory = .ok number)
    (plain : '/' ∉ name.toList ∧ '\x00' ∉ name.toList)
    (named : name ≠ "" ∧ name ≠ "." ∧ name ≠ "..")
    (short : name.utf8ByteSize ≤ maxNameSize)
    (fits : (Path.join directory name).utf8ByteSize ≤ maxPathSize) :
    d.locate (Path.join directory name) = .ok (.slot ⟨number, name⟩) := by
  unfold findDirectory locate at way
  split at way
  · cases way
  next place located =>
  split at located
  · cases located
  split at located
  · cases located
  split at located
  · cases located
  next nonzero given _ =>
  have nonzero : '\x00' ∉ (Path.join directory name).toList := fun h => by
    rcases Path.mem_join h with h | h | h
    · exact nonzero h
    · exact absurd h (by decide)
    · exact plain.2 h
  have given' : Path.join directory name ≠ "" := fun h => by
    have parts := Path.parts_join directory plain.1 named.1
    rw [h] at parts
    have := congrArg List.length parts
    simp [Path.parts, Path.pieces] at this
  rw [locate, if_neg nonzero, if_neg given', if_neg (Nat.not_lt.2 fits),
    Path.isAbsolute_join plain.1 given, Path.parts_join directory plain.1 named.1,
    List.foldlM_append, located]
  show (List.foldlM d.step place [name]) = _
  rw [List.foldlM_cons, step, way]
  simp [named.2.1, named.2.2, Nat.not_lt.2 short]

end Disk

end Quorum
