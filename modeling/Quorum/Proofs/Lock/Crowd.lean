import Mathlib.Logic.Function.Basic
import Mathlib.Tactic.Lemma
import Quorum.Proofs.Lock.Operation

/-!
# Processes that take one lock

Any number of processes take the lock of one data directory and give it back. Each does one file
operation at a time, and they come between each other in any order.
-/

namespace Quorum.Lock

/-- Processes that take the lock of one data directory, or hold it. -/
structure Crowd where
  disk : Disk
  /-- How far a process has come; nothing, if it does not want the lock. -/
  stage : ProcessId → Option Stage
  /-- The process that made the lock file, if it was one of these. -/
  maker : Option ProcessId

/-- What a process does next. -/
inductive Move where
  /-- Begins to take the lock. -/
  | begins
  /-- Does one operation of taking it. -/
  | proceeds
  /-- Gives it back. -/
  | drops
deriving DecidableEq

namespace Crowd

variable (isAlive : ProcessId → Bool) (dataDir : Path)

/-- Nobody wants the lock, whatever its file may be. -/
def start (d : Disk) : Crowd :=
  ⟨d, fun _ => none, none⟩

/-- One operation. A process writes its number into the file that it made, and if that was removed
meanwhile, the number goes to a file without a name. -/
def operate (c : Crowd) (p : ProcessId) (stage : Stage) : Stage × Disk :=
  if stage = .signing ∧ c.maker ≠ some p then (.held, c.disk)
  else step ⟨p, isAlive⟩ dataDir stage c.disk

/-- The maker of the lock file after an operation that led from a stage to the next. -/
def makerAfter (c : Crowd) (p : ProcessId) : Stage → Stage → Option ProcessId
  | .clearing, .creating => none
  | .creating, .signing => some p
  | _, _ => c.maker

def begin (c : Crowd) (p : ProcessId) : Crowd :=
  match c.stage p with
  | none | some (.refused _) => { c with stage := Function.update c.stage p (some .reading) }
  | some _ => c

def proceed (c : Crowd) (p : ProcessId) : Crowd :=
  match c.stage p with
  | none => c
  | some stage =>
    let (next, disk) := c.operate isAlive dataDir p stage
    ⟨disk, Function.update c.stage p (some next), c.makerAfter p stage next⟩

def drop (c : Crowd) (p : ProcessId) : Crowd :=
  if c.stage p = some .held then
    ⟨release dataDir c.disk, Function.update c.stage p none,
      if (c.disk.remove (path dataDir)).isOk then none else c.maker⟩
  else c

def act (c : Crowd) : ProcessId × Move → Crowd
  | (p, .begins) => c.begin p
  | (p, .proceeds) => c.proceed isAlive dataDir p
  | (p, .drops) => c.drop dataDir p

def run (c : Crowd) (events : List (ProcessId × Move)) : Crowd :=
  events.foldl (act isAlive dataDir) c

/-- Every event of a run finds the processes in a state that allows it. -/
def Throughout (allows : Crowd → ProcessId × Move → Prop) : Crowd → List (ProcessId × Move) → Prop
  | _, [] => True
  | c, event :: events => allows c event ∧ Throughout allows (c.act isAlive dataDir event) events

variable {isAlive dataDir} {c : Crowd} {p q : ProcessId}

/-- Nobody else moves when a process does. -/
lemma stage_act_of_ne {move : Move} (other : q ≠ p) :
    (c.act isAlive dataDir (p, move)).stage q = c.stage q := by
  cases move with
  | begins =>
    simp only [act, begin]
    split
    · exact Function.update_of_ne other _ _
    · exact Function.update_of_ne other _ _
    · rfl
  | proceeds =>
    simp only [act, proceed]
    split
    · rfl
    · exact Function.update_of_ne other _ _
  | drops =>
    simp only [act, drop]
    split
    · exact Function.update_of_ne other _ _
    · rfl

/-- What one operation makes of the crowd. -/
lemma proceed_eq {stage next : Stage} {d : Disk} (at_stage : c.stage p = some stage)
    (operated : c.operate isAlive dataDir p stage = (next, d)) :
    c.proceed isAlive dataDir p
      = ⟨d, Function.update c.stage p (some next), c.makerAfter p stage next⟩ := by
  simp only [proceed, at_stage, operated]

/-- A process whose file was not removed operates on the disk as if it were alone. -/
lemma operate_eq_step {stage : Stage} (own : stage = .signing → c.maker = some p) :
    c.operate isAlive dataDir p stage = step ⟨p, isAlive⟩ dataDir stage c.disk :=
  if_neg fun ⟨signing, other⟩ => other (own signing)

/-- A process that nobody comes between takes the lock as if it were alone. -/
theorem run_proceeds (n : Nat) : ∀ {c : Crowd} {stage : Stage}, c.stage p = some stage →
    (stage = .signing → c.maker = some p) →
    let c' := c.run isAlive dataDir (List.replicate n (p, .proceeds))
    let alone := steps ⟨p, isAlive⟩ dataDir n stage c.disk
    c'.stage p = some alone.1 ∧ c'.disk = alone.2 := by
  induction n with
  | zero =>
    intro c stage at_stage _
    exact ⟨at_stage, rfl⟩
  | succ n ih =>
    intro c stage at_stage own
    rcases stepped : step ⟨p, isAlive⟩ dataDir stage c.disk with ⟨next, d⟩
    have proceeded := proceed_eq at_stage ((operate_eq_step own).trans stepped)
    -- a process comes to sign only from making the file
    have next_own : next = .signing → c.makerAfter p stage next = some p := by
      rintro rfl
      cases Operates.of_step stepped with
      | creates => rfl
    have next_stage : (c.proceed isAlive dataDir p).stage p = some next := by simp [proceeded]
    have rest := ih next_stage (by simpa [proceeded] using next_own)
    simpa [run, List.replicate_succ, act, steps, stepped, proceeded] using rest

end Crowd

end Quorum.Lock
