import Quorum.Disk.Attempt

/-!
# Directories with all above them

Making a directory also makes those above it that are missing. If one of them cannot be made, those
that were made before it stay.
-/

namespace Quorum

/-- Makes a directory; one that is there will do. -/
def ensureDirectory (p : Path) : Attempt IoError Unit := fun d =>
  match d.createDirectory p with
  | .ok d => (.ok (), d)
  | .error e => if e = .alreadyExists ∧ d.isDirectory p then (.ok (), d) else (.error e, d)

/-- Makes a directory, and first those above it if they are missing; their paths are given, the
nearest first. -/
def ensureBelow (p : Path) : List Path → Attempt IoError Unit
  | [] => ensureDirectory p
  | parent :: above => fun d =>
    match ensureDirectory p d with
    | (.error .notFound, d) => (ensureBelow parent above >>= fun _ => ensureDirectory p) d
    | out => out

/-- Makes a directory with all above it. No path at all asks for nothing. -/
def makeDirectories (p : Path) : Attempt IoError Unit :=
  if p = "" then .done () else ensureBelow p p.parents

end Quorum
