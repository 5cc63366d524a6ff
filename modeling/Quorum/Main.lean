import Quorum.Program
import Quorum.Server.Respond
import Quorum.Time.Epoch
import Std.Time.DateTime.Timestamp

/-!
# The command line

The outer layer: it takes a picture of the data directory, runs the program on that, and carries the
changes over to the files. A server gets its requests on standard input, one after the other, from
whatever listens for them.
-/

open Quorum

namespace Quorum.Outer

/-! ### Files -/

/-- The names that lead from the top of the disk to a file or a directory. -/
abbrev Location := List String

/-- The path that starts at the top. -/
def Location.path (l : Location) : Path :=
  Path.ofParts true l

/-- The directory that the program runs in. -/
def presentDir : IO Location := do
  return Path.parts (← IO.currentDir).toString

/-- A file's text; one that is no text is neither JSON nor a number. -/
def readText (path : Path) : IO String := do
  try IO.FS.readFile path
  catch _ => return "\ufffd"

/-- A picture with the file or the directory of a location added to it. -/
def addEntry (d : Disk) (l : Location) : IO Disk := do
  let file := (← IO.currentDir) / l.path
  if ← file.isDir then return (makeDirectories l.path d).2
  else if ← file.pathExists then return (d.write l.path (← readText l.path)).toOption.getD d
  else return d

/-- A picture with everything below a location added to it. -/
partial def addBelow (d : Disk) (l : Location) : IO Disk := do
  let file := (← IO.currentDir) / l.path
  if ← file.isDir then
    (← file.readDir).foldlM (fun d e => do
      let below := l ++ [e.fileName]
      addBelow (← addEntry d below) below) d
  else return d

/-- The locations that the parts of a path lead through and to, if nothing is in the way. -/
def stops (l : Location) : List String → List Location
  | [] => [l]
  | part :: parts =>
    let next := if part = "." then l else if part = ".." then l.dropLast else l ++ [part]
    l :: stops next parts

/-- A picture of what is on the way to the data directory, and in it. -/
def readDisk (dataDir : Path) : IO Disk := do
  let workDir ← presentDir
  let d := (makeDirectories workDir.path .blank).2
  let d := { d with workDir := (d.findDirectory workDir.path).toOption.getD Disk.top }
  let way := stops (if dataDir.isAbsolute then [] else workDir) dataDir.parts
  addBelow (← way.foldlM addEntry d) (way.getLast?.getD workDir)

/-- The location of a directory, by the names of those above it; the fuel bounds their number. -/
def locationOf (d : Disk) : Nat → Nat → Location
  | 0, _ => []
  | fuel + 1, number =>
    match d.entries.find? (·.2 = .directory number) with
    | none => []
    | some (s, _) => locationOf d fuel s.directory ++ [s.name]

/-- Everything on a disk by its location, from the top down. -/
def contents (d : Disk) : List (Location × Entry) :=
  let found := d.entries.map fun (s, e) =>
    (locationOf d d.entries.length s.directory ++ [s.name], e)
  found.mergeSort fun x y => x.1.length ≤ y.1.length

/-- Writes a file beside the one it replaces, and then gives it that one's name. -/
def replaceFile (path : Path) (text : String) : IO Unit := do
  let beside := path ++ ".new"
  IO.FS.writeFile beside text
  IO.FS.rename beside path

/-- Carries over to the files what is different on the disk. -/
def writeDisk (before after : Disk) : IO Unit := do
  let old := contents before
  let new := contents after
  for (l, e) in new do
    unless old.contains (l, e) do
      match e with
      | .directory _ => IO.FS.createDirAll l.path
      | .file text => replaceFile l.path text
  for (l, e) in old.reverse do
    unless new.any (·.1 = l) do
      match e with
      | .directory _ => IO.FS.removeDir l.path
      | .file _ => IO.FS.removeFile l.path

/-! ### Surroundings -/

/-- The number of this process. -/
def ownNumber : IO ProcessId := do
  let stat ← readText "/proc/self/stat"
  return UInt32.ofNat ((String.ofList (stat.toList.takeWhile (· ≠ ' '))).toNat?.getD 0)

/-- The present time. -/
def presentTime : IO Time.Instant := do
  let stamp ← Std.Time.Timestamp.now
  return (Time.Instant.ofNanoseconds? stamp.toNanosecondsSinceUnixEpoch.val.toNat).getD .epoch

/-- What a run finds around it; of other processes only the holder of the lock is asked for. -/
def look (dataDir : Path) (d : Disk) : IO Environment := do
  let self ← ownNumber
  let living ← match Lock.holder? dataDir d with
    | none => pure none
    | some pid => do
      let file := (← IO.currentDir) / s!"/proc/{pid.toNat}"
      pure (if ← file.pathExists then some pid else none)
  let bits ← IO.getRandomBytes 32
  return { processes := ⟨self, fun pid => pid = self || some pid = living⟩
           now := ← presentTime
           entropy := ofBigEndian bits.toList }

/-! ### Serving -/

/-- The header lines of a request, up to the empty one. -/
partial def readHeaders (input : IO.FS.Stream) : IO (List Http.Header) := do
  let line := (← input.getLine).trimAscii.toString
  if line.isEmpty then return []
  let name := String.ofList (line.toList.takeWhile (· ≠ ':'))
  let value := String.ofList ((line.toList.dropWhile (· ≠ ':')).drop 1)
  return (name.toLower, value.trimAscii.toString) :: (← readHeaders input)

/-- The bytes of a body. -/
partial def readBytes (input : IO.FS.Stream) (size : Nat) : IO ByteArray := do
  if size = 0 then return .empty
  let bytes ← input.read (USize.ofNat size)
  if bytes.isEmpty then return bytes
  return bytes ++ (← readBytes input (size - bytes.size))

/-- The next request; none at the end of the input. -/
def readRequest? (input : IO.FS.Stream) : IO (Option Http.Request) := do
  let line ← input.getLine
  match line.trimAscii.toString.splitOn " " with
  | method :: target :: _ =>
    let headers ← readHeaders input
    let size := ((headers.find? (·.1 = "content-length")).bind (·.2.toNat?)).getD 0
    let body := (String.fromUTF8? (← readBytes input size)).getD "\ufffd"
    return some ⟨method, target, headers, body⟩
  | _ => return none

def writeReply (output : IO.FS.Stream) (r : Http.Reply) : IO Unit := do
  output.putStr s!"HTTP/1.1 {r.status}\r\n"
  for (name, value) in r.headers do
    output.putStr s!"{name}: {value}\r\n"
  output.putStr s!"content-length: {r.body.utf8ByteSize}\r\n\r\n{r.body}"
  output.flush

/-- Serves requests until the input ends, then saves and gives the lock back. -/
partial def serve (dataDir : Path) (s : Server) (d : Disk) : IO Unit := do
  match ← readRequest? (← IO.getStdin) with
  | none =>
    let after := Lock.release dataDir (s.keep none d)
    writeDisk d after
  | some q =>
    let out := s.respond none (← presentTime) d q
    writeDisk d out.disk
    writeReply (← IO.getStdout) out.reply
    serve dataDir out.server out.disk

/-- Prints what a run printed; yields its exit code. -/
def finish (e : Ending) : IO UInt32 := do
  IO.print e.out
  IO.eprint e.err
  return UInt32.ofNat e.code

end Quorum.Outer

open Quorum.Outer in
def main (args : List String) : IO UInt32 := do
  match Command.readInvocation args with
  | .error stop => finish (Program.stopped stop)
  | .ok invocation =>
    let dataDir := invocation.dataDir
    let before ← readDisk dataDir
    let (out, after) := Program.carryOut (← look dataDir before) invocation before
    writeDisk before after
    match out with
    | .ended e => finish e
    | .serving server text =>
      IO.print text
      serve dataDir server after
      return 0
