import Quorum.Disk.Directories
import Quorum.Disk.Plan
import Quorum.Wallet.Json

/-!
# Storage

A wallet is kept in one file of its data directory. A save writes a new file beside it and then
gives that its name, so that the file is always complete; before that, the file it replaces becomes
the first of a bounded number of backups.
-/

namespace Quorum

/-- The number by which the system knows a process. -/
abbrev ProcessId := UInt32

structure Storage where
  dataDir : Path
  ledgerFile : String := "ledger.json"
  backupEnabled : Bool := true
  maxBackups : Nat := 5
deriving DecidableEq

namespace Storage

/-- Why a wallet is not saved or loaded, or a data directory not used. -/
inductive Error where
  | io (cause : IoError)
  | serialization (problem : Json.Problem)
  | ledgerMissing (path : Path)
  | backupMissing (index : Nat)
  /-- Another process holds the lock of the data directory. -/
  | locked (holder : ProcessId) (dataDir : Path)
deriving DecidableEq

def Error.message : Error → String
  | .io cause => "IO error: " ++ cause.message
  | .serialization problem => "Serialization error: " ++ problem.message
  | .ledgerMissing path => "Invalid data: Ledger file not found: " ++ path
  | .backupMissing index => s!"Invalid data: Backup {index} not found"
  | .locked holder dataDir =>
    let shown := Text.quoted dataDir
    s!"Data directory {shown} is in use by process {holder.toNat}"

/-- The error with its kind and fields. -/
def Error.dump : Error → String
  | .io cause => "IoError(" ++ cause.dump ++ ")"
  | .serialization problem =>
    "SerializationError(Error(" ++ Text.quoted problem.message ++ ", line: 0, column: 0))"
  | .ledgerMissing path => "InvalidData(" ++ Text.quoted ("Ledger file not found: " ++ path) ++ ")"
  | .backupMissing index => s!"InvalidData(\"Backup {index} not found\")"
  | .locked holder dataDir =>
    let shown := Text.quoted dataDir
    s!"Locked \x7b pid: {holder.toNat}, path: {shown} \x7d"

/-! ### Paths -/

/-- The path of a file in the data directory. -/
def pathOf (s : Storage) (name : String) : Path :=
  Path.join s.dataDir name

def ledgerPath (s : Storage) : Path :=
  s.pathOf s.ledgerFile

/-- The path of a backup; number zero is the latest. -/
def backupPath (s : Storage) (index : Nat) : Path :=
  s.pathOf (s.ledgerFile ++ ".backup." ++ String.ofList (Text.digits index))

def temporaryPath (s : Storage) : Path :=
  s.pathOf (s.ledgerFile ++ ".tmp")

/-! ### Saving -/

/-- Makes the data directory. -/
def prepare (s : Storage) : Attempt Error Unit :=
  (makeDirectories s.dataDir).mapError .io

/-- Drops the oldest backup and gives every other the next number, the highest first. -/
def rotation (s : Storage) (d : Disk) : List FileOp :=
  let last := s.maxBackups - 1
  let oldest := if d.exists? (s.backupPath last) then [.remove (s.backupPath last)] else []
  oldest ++ ((List.range last).reverse.filter fun i => d.exists? (s.backupPath i)).map fun i =>
    .rename (s.backupPath i) (s.backupPath (i + 1))

/-- Keeps the present ledger file as the latest backup, if backups are wanted. -/
def backup (s : Storage) (d : Disk) : List FileOp :=
  if s.backupEnabled ∧ 0 < s.maxBackups ∧ d.exists? s.ledgerPath then
    s.rotation d ++ [.copy s.ledgerPath (s.backupPath 0)]
  else []

/-- Writes a text beside the ledger file and then puts it in place of that. -/
def replacement (s : Storage) (text : String) : List FileOp :=
  [.create s.temporaryPath, .append s.temporaryPath text, .sync s.temporaryPath,
   .rename s.temporaryPath s.ledgerPath]

/-- The text of a wallet in its file. -/
def fileText (w : Wallet) : String :=
  w.toJson.pretty

/-- All operations of a save, which depend on what is on the disk. -/
def savePlan (s : Storage) (w : Wallet) (d : Disk) : List FileOp :=
  s.backup d ++ s.replacement (fileText w)

/-- Saves a wallet, on a device that may fail. -/
def saveWith (s : Storage) (fault : Option Fault) (w : Wallet) : Attempt Error Unit := fun d =>
  let (r, d) := runPlan fault (s.savePlan w d) d
  (r.mapError .io, d)

def save (s : Storage) (w : Wallet) : Attempt Error Unit :=
  s.saveWith none w

/-! ### Loading -/

/-- Reads a wallet from a file. A directory can be opened but holds no text. -/
def readWallet (d : Disk) (p : Path) : Except Error Wallet :=
  match d.read p with
  | .error .isDirectory => .error (.serialization .syntactic)
  | .error e => .error (.io e)
  | .ok text => (Wallet.ofText text).mapError .serialization

/-- Whether there is a ledger file. -/
def hasLedger (s : Storage) (d : Disk) : Bool :=
  d.exists? s.ledgerPath

def load (s : Storage) (d : Disk) : Except Error Wallet :=
  if s.hasLedger d then readWallet d s.ledgerPath
  else .error (.ledgerMissing s.ledgerPath)

/-- Reads a backup; number zero is the latest. -/
def loadBackup (s : Storage) (index : Nat) (d : Disk) : Except Error Wallet :=
  if d.exists? (s.backupPath index) then readWallet d (s.backupPath index)
  else .error (.backupMissing index)

/-- The numbers of the backups that are there. -/
def backups (s : Storage) (d : Disk) : List Nat :=
  (List.range s.maxBackups).filter fun i => d.exists? (s.backupPath i)

/-- The size of the ledger file in bytes; zero without one. -/
def ledgerSize (s : Storage) (d : Disk) : Nat :=
  match d.read s.ledgerPath with
  | .ok text => text.utf8ByteSize
  | .error .isDirectory => 4096
  | .error _ => 0

end Storage

end Quorum
