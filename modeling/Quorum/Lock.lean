import Quorum.Storage
import Quorum.Text.Blank

/-!
# Locks of data directories

Whoever writes a ledger holds the lock of its data directory: a file with the number of the process.
A lock that a dead process left behind is taken over, and so is one that cannot be read.

Taking the lock is a sequence of single file operations, which other processes may come between.
-/

namespace Quorum

/-- The processes of the machine, seen from one of them. -/
structure Processes where
  self : ProcessId
  isAlive : ProcessId → Bool

namespace Lock

/-- The name of the lock file in the data directory. -/
def fileName : String := ".lock"

def path (dataDir : Path) : Path :=
  Path.join dataDir fileName

/-- The process that the lock file names, if there is one and it can be read. -/
def holder? (dataDir : Path) (d : Disk) : Option ProcessId :=
  match d.read (path dataDir) with
  | .ok text => (Text.readBounded? UInt32.size (Text.trim text.toList)).map UInt32.ofNat
  | .error _ => none

/-- What a process writes into the lock file. -/
def signature (self : ProcessId) : String :=
  String.ofList (Text.digits self.toNat)

/-! ### Taking the lock -/

/-- How far a process has come in taking the lock: what it does next, or how it ended. -/
inductive Stage where
  /-- Read the lock file. -/
  | reading
  /-- Ask whether the process named in it is alive. -/
  | probing (holder : ProcessId)
  /-- See whether there is a file, as none could be read. -/
  | looking
  /-- Remove the file that is in the way. -/
  | clearing
  /-- Make the file, which must not be there. -/
  | creating
  /-- Read who came first, as the file was there. -/
  | yielding
  /-- Write the own number into the file. -/
  | signing
  | held
  | refused (reason : Storage.Error)
deriving DecidableEq

/-- One operation of a process that takes the lock. -/
def step (ps : Processes) (dataDir : Path) (stage : Stage) (d : Disk) : Stage × Disk :=
  let file := path dataDir
  match stage with
  | .reading =>
    match holder? dataDir d with
    | some pid => (.probing pid, d)
    | none => (.looking, d)
  | .probing pid =>
    if ps.isAlive pid then (.refused (.locked pid dataDir), d) else (.clearing, d)
  | .looking => if d.exists? file then (.clearing, d) else (.creating, d)
  | .clearing =>
    match d.remove file with
    | .ok d => (.creating, d)
    | .error e => (.refused (.io e), d)
  | .creating =>
    match d.createNew file with
    | .ok d => (.signing, d)
    | .error .alreadyExists => (.yielding, d)
    | .error e => (.refused (.io e), d)
  | .yielding => (.refused (.locked ((holder? dataDir d).getD 0) dataDir), d)
  | .signing =>
    match d.append file (signature ps.self) with
    | .ok d => (.held, d)
    | .error e => (.refused (.io e), d)
  | .held => (.held, d)
  | .refused reason => (.refused reason, d)

/-- A number of operations, with nobody coming between. -/
def steps (ps : Processes) (dataDir : Path) : Nat → Stage → Disk → Stage × Disk
  | 0, stage, d => (stage, d)
  | n + 1, stage, d =>
    let (stage, d) := step ps dataDir stage d
    steps ps dataDir n stage d

/-- Takes the lock, making the data directory if needed. Five operations always lead to the end. -/
def acquire (ps : Processes) (dataDir : Path) : Attempt Storage.Error Unit := fun d =>
  match makeDirectories dataDir d with
  | (.error e, d) => (.error (.io e), d)
  | (.ok (), d) =>
    match steps ps dataDir 5 .reading d with
    | (.refused reason, d) => (.error reason, d)
    | (_, d) => (.ok (), d)

/-- Gives the lock back by removing its file. -/
def release (dataDir : Path) (d : Disk) : Disk :=
  (d.remove (path dataDir)).toOption.getD d

/-- Does some work while holding the lock. -/
def whileHeld {ε α : Type} (ps : Processes) (dataDir : Path) (wrap : Storage.Error → ε)
    (work : Attempt ε α) : Attempt ε α := do
  (acquire ps dataDir).mapError wrap
  work.closing (release dataDir)

end Lock

end Quorum
