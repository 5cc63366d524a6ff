import Quorum.Disk

/-!
# Plans

A plan is a list of file operations that are done one after the other, up to the first that fails.
A fault makes one of them fail that would have succeeded; a prefix of the list is what was done when
the machine stops in between.
-/

namespace Quorum

/-- One operation of a plan. -/
inductive FileOp where
  | remove (path : Path)
  | rename (source target : Path)
  | copy (source target : Path)
  /-- Makes an empty file, in place of the one that is there. -/
  | create (path : Path)
  | append (path : Path) (text : String)
  /-- Waits until a file is on the device. -/
  | sync (path : Path)
deriving DecidableEq

/-- The disk after the operation. -/
def FileOp.apply (d : Disk) : FileOp → Except IoError Disk
  | .remove path => d.remove path
  | .rename source target => d.rename source target
  | .copy source target => d.copy source target
  | .create path => d.write path ""
  | .append path text => d.append path text
  | .sync _ => .ok d

/-- The disk after the device failed in the operation, when `written` characters of what was to be
added had reached it. -/
def FileOp.interrupted (d : Disk) (written : Nat) : FileOp → Disk
  | .append path text =>
    (d.append path (String.ofList (text.toList.take written))).toOption.getD d
  | _ => d

/-- A failure of the device in one operation of a plan. -/
structure Fault where
  /-- How many operations are done before. -/
  step : Nat
  written : Nat
deriving DecidableEq

/-- Does the operations of a plan in order, up to the first that fails. -/
def runPlan (fault : Option Fault) : List FileOp → Disk → Except IoError Unit × Disk
  | [], d => (.ok (), d)
  | op :: ops, d =>
    match fault with
    | some ⟨0, written⟩ => (.error .deviceFailed, op.interrupted d written)
    | some ⟨step + 1, written⟩ =>
      match op.apply d with
      | .error e => (.error e, d)
      | .ok d => runPlan (some ⟨step, written⟩) ops d
    | none =>
      match op.apply d with
      | .error e => (.error e, d)
      | .ok d => runPlan none ops d

end Quorum
