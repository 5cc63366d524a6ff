import Quorum.Proofs.Disk.Unwritten
import Quorum.Proofs.Lock.Acquire

/-!
# Giving a lock back

Whoever finds the lock free either makes the lock file, and then it stands where its path leads, or
fails with a file operation, and then there is no such file. To give the lock back removes the file
again. No other lock file is made on the way.
-/

namespace Quorum.Lock

open Disk (Unwritten)
open Quorum.Path (Plain)

variable {ps : Processes} {dataDir : Path} {stage next : Stage} {before d d' : Disk} {s : Slot}

lemma plain_fileName : Plain fileName :=
  ⟨by decide, by decide, by decide⟩

lemma endsInSlash_path (dataDir : Path) : (path dataDir).endsInSlash = false :=
  Path.endsInSlash_join dataDir plain_fileName.slash plain_fileName.named.1

/-! ### Lock files -/

/-- All lock files stood there before. -/
def NoneNew (before d : Disk) : Prop :=
  ∀ s text, s.name = fileName → d.file? s = some text → before.file? s = some text

/-- The lock file stands where its path leads, and any other was there before. -/
structure Taken (dataDir : Path) (s : Slot) (before d : Disk) : Prop where
  located : d.locate (path dataDir) = .ok (.slot s)
  there : ∃ text, d.file? s = some text
  others : ∀ t text, t ≠ s → t.name = fileName → d.file? t = some text → before.file? t = some text

/-- There is no lock file where its path leads, and any other was there before. -/
structure Released (dataDir : Path) (before d : Disk) : Prop where
  gone : ∀ text, d.read (path dataDir) ≠ .ok text
  old : NoneNew before d

/-- A file that is found after another one was removed is another one, and was there. -/
lemma file?_of_file?_drop {t : Slot} {text : String} (there : (d.drop s).file? t = some text) :
    t ≠ s ∧ d.file? t = some text := by
  have apart : s ≠ t := by
    rintro rfl
    rw [Disk.file?, Disk.lookup?_drop, if_pos rfl] at there
    cases there
  exact ⟨apart.symm, Disk.file?_drop_of_ne apart ▸ there⟩

lemma NoneNew.of_unwritten (h : Unwritten before d) : NoneNew before d :=
  fun s _ _ there => h.file?_eq s ▸ there

lemma NoneNew.remove (h : NoneNew before d) (removed : d.remove (path dataDir) = .ok d') :
    NoneNew before d' := by
  obtain ⟨s, _, _, rfl⟩ := Disk.exists_of_remove removed
  exact fun t text named there => h t text named (file?_of_file?_drop there).2

namespace Taken

/-- A lock file is put where its path leads. -/
lemma put (tidy : d.Tidy) (located : d.locate (path dataDir) = .ok (.slot s))
    (free : d.NoDirectory s) (others : ∀ t text, t ≠ s → t.name = fileName →
      d.file? t = some text → before.file? t = some text) (text : String) :
    Taken dataDir s before (d.put s (.file text)) := by
  have spares := Disk.Spares.put tidy free text
  refine ⟨spares.leads _ _ located, ⟨text, ?_⟩, fun t text' apart named there => ?_⟩
  · rw [Disk.file?, Disk.lookup?_put, if_pos rfl]
  · rw [Disk.file?_put_of_ne apart.symm] at there
    exact others t text' apart named there

lemma of_createNew (old : NoneNew before d) (tidy : d.Tidy)
    (created : d.createNew (path dataDir) = .ok d') : ∃ s, Taken dataDir s before d' := by
  obtain ⟨s, located, free, _, rfl⟩ := Disk.exists_of_createNew created
  exact ⟨s, put tidy located (Disk.noDirectory_of_none free) (fun t text _ => old t text) ""⟩

/-- The file that was made is found. -/
lemma exists_findFile (h : Taken dataDir s before d) :
    ∃ text, d.findFile (path dataDir) = .ok (s, text) := by
  obtain ⟨text, there⟩ := h.there
  exact ⟨text, Disk.findFile_eq_ok_iff.mpr
    ⟨h.located, Disk.file?_eq_some_iff.mp there, endsInSlash_path dataDir⟩⟩

/-- So it can be written. -/
lemma exists_append (h : Taken dataDir s before d) (tidy : d.Tidy) (text : String) :
    ∃ d', d.append (path dataDir) text = .ok d' ∧ Taken dataDir s before d' := by
  obtain ⟨old, found⟩ := h.exists_findFile
  obtain ⟨located, there, _⟩ := Disk.findFile_eq_ok_iff.mp found
  exact ⟨_, by rw [Disk.append, found],
    put tidy located (Disk.noDirectory_of_file there) h.others (old ++ text)⟩

lemma of_unwritten (h : Taken dataDir s before d) (unwritten : Unwritten d d') :
    Taken dataDir s before d' := by
  obtain ⟨text, there⟩ := h.there
  refine ⟨unwritten.leads _ _ h.located, ⟨text, (unwritten.file?_eq s).trans there⟩, ?_⟩
  intro t text' apart named there
  exact h.others t text' apart named ((unwritten.file?_eq t).symm.trans there)

/-- To give the lock back removes the file. -/
theorem release (h : Taken dataDir s before d) (tidy : d.Tidy) :
    Released dataDir before (release dataDir d) := by
  obtain ⟨text, found⟩ := h.exists_findFile
  have removed : d.remove (path dataDir) = .ok (d.drop s) := by rw [Disk.remove, found]
  rw [Lock.release, removed]
  refine ⟨fun text' read => ?_, fun t text' named there => ?_⟩
  · have there := Disk.exists?_of_read read
    rw [Except.toOption, Option.getD_some, exists?_of_remove tidy removed] at there
    cases there
  · rw [Except.toOption, Option.getD_some] at there
    obtain ⟨apart, there⟩ := file?_of_file?_drop there
    exact h.others t text' apart named there

end Taken

/-! ### Taking the lock -/

/-- The most operations that a process in this stage still has to do. -/
def Stage.toGo : Stage → Nat
  | .reading => 5
  | .probing _ | .looking => 4
  | .clearing => 3
  | .creating => 2
  | .yielding | .signing => 1
  | .held | .refused _ => 0

lemma Operates.toGo_le (h : Operates ps dataDir stage d next d') :
    next.toGo ≤ stage.toGo - 1 := by
  cases h <;> simp [Stage.toGo]

lemma toGo_steps (ps : Processes) (dataDir : Path) (n : Nat) : ∀ (stage : Stage) (d : Disk),
    (steps ps dataDir n stage d).1.toGo ≤ stage.toGo - n := by
  induction n with
  | zero => exact fun stage d => Nat.le_refl _
  | succ n ih =>
    intro stage d
    rcases stepped : step ps dataDir stage d with ⟨next, d'⟩
    have first := (Operates.of_step stepped).toGo_le
    have rest := ih next d'
    simp only [steps, stepped]
    omega

/-- What a process that takes the lock has made of the lock files, in a stage that it comes to if it
meets nobody. -/
def Stage.Leaves (dataDir : Path) (before d : Disk) : Stage → Prop
  | .signing | .held => ∃ s, Taken dataDir s before d
  | .refused _ => Released dataDir before d
  | _ => NoneNew before d

lemma Stage.Leaves.step (h : stage.Leaves dataDir before d) (clear : stage.Clear ps dataDir d)
    (tidy : d.Tidy) (stepped : step ps dataDir stage d = (next, d')) :
    next.Leaves dataDir before d' := by
  cases stage with
  | reading =>
    simp only [Lock.step] at stepped
    split at stepped <;> cases stepped <;> exact h
  | probing pid =>
    have dead : ps.isAlive pid = false := clear
    simp only [Lock.step, dead] at stepped
    cases stepped
    exact h
  | looking =>
    simp only [Lock.step] at stepped
    split at stepped <;> cases stepped <;> exact h
  | clearing =>
    have old : NoneNew before d := h
    simp only [Lock.step] at stepped
    split at stepped <;> cases stepped
    · rename_i removed
      exact old.remove removed
    · -- a file that could be read could be removed
      rename_i e failed
      refine ⟨fun text read => ?_, old⟩
      obtain ⟨s, found⟩ := Disk.read_eq_ok_iff.mp read
      rw [Disk.remove, found] at failed
      cases failed
  | creating =>
    have old : NoneNew before d := h
    have nothing : d.exists? (path dataDir) = false := clear
    simp only [Lock.step] at stepped
    split at stepped <;> cases stepped
    · rename_i created
      exact Taken.of_createNew old tidy created
    · exact old
    · refine ⟨fun text read => ?_, old⟩
      rw [Disk.exists?_of_read read] at nothing
      cases nothing
  | yielding => cases clear
  | signing =>
    obtain ⟨s, taken⟩ : ∃ s, Taken dataDir s before d := h
    obtain ⟨d₁, written, taken⟩ := taken.exists_append tidy (signature ps.self)
    simp only [Lock.step, written] at stepped
    cases stepped
    exact ⟨s, taken⟩
  | held =>
    cases stepped
    exact h
  | refused reason =>
    cases stepped
    exact h

lemma leaves_steps (n : Nat) : ∀ {stage : Stage} {d : Disk}, d.Tidy → stage.Clear ps dataDir d →
    stage.Leaves dataDir before d → (steps ps dataDir n stage d).1.Leaves dataDir before
      (steps ps dataDir n stage d).2 := by
  induction n with
  | zero => exact fun _ _ leaves => leaves
  | succ n ih =>
    intro stage d tidy clear leaves
    rcases stepped : step ps dataDir stage d with ⟨next, d'⟩
    simp only [steps, stepped]
    exact ih ((Operates.of_step stepped).spares tidy).tidy (clear.step tidy stepped)
      (leaves.step clear tidy stepped)

/-- In a directory that is there or can be made, a free lock is taken, or an operation fails and no
lock file is left. -/
theorem acquire_cases (tidy : d.Tidy) (made : (makeDirectories dataDir d).1 = .ok ())
    (free : IsFree ps dataDir (makeDirectories dataDir d).2) :
    (∃ s d', acquire ps dataDir d = (.ok (), d') ∧ Taken dataDir s d d') ∨
      ∃ cause d', acquire ps dataDir d = (.error (.io cause), d') ∧ Released dataDir d d' := by
  have making := unwritten_makeDirectories tidy dataDir
  rcases making_eq : makeDirectories dataDir d with ⟨r, d₁⟩
  rw [making_eq] at making made free
  obtain rfl : r = .ok () := made
  have start : Stage.reading.Clear ps dataDir d₁ := free
  have old : Stage.reading.Leaves dataDir d d₁ := NoneNew.of_unwritten making
  have clear := clear_steps 5 making.tidy start
  have leaves := leaves_steps 5 making.tidy start old
  have ends := toGo_steps ps dataDir 5 .reading d₁
  rcases ended : steps ps dataDir 5 .reading d₁ with ⟨stage, d'⟩
  rw [ended] at clear leaves ends
  cases stage with
  | held =>
    obtain ⟨s, taken⟩ := leaves
    exact .inl ⟨s, d', by simp only [acquire, making_eq, ended], taken⟩
  | refused reason =>
    obtain ⟨cause, rfl⟩ := clear
    exact .inr ⟨cause, d', by simp only [acquire, making_eq, ended], leaves⟩
  | _ => simp [Stage.toGo] at ends

/-! ### Locks that are held -/

/-- The directory of a lock that somebody holds is there, and nothing is done to it. -/
theorem acquire_of_alive {pid : ProcessId} (held : holder? dataDir d = some pid)
    (alive : ps.isAlive pid = true) :
    acquire ps dataDir d = (.error (.locked pid dataDir), d) := by
  have made : makeDirectories dataDir d = (.ok (), d) := by
    cases read : d.read (path dataDir) with
    | error e =>
      rw [holder?, read] at held
      cases held
    | ok text =>
      obtain ⟨s, found⟩ := Disk.read_eq_ok_iff.mp read
      exact makeDirectories_of_locate_join plain_fileName.slash plain_fileName.named
        (Disk.findFile_eq_ok_iff.mp found).1
  simp only [acquire, made, steps, step, held, alive, if_true]

/-- A directory whose lock is free has it free also after it was made, unless its path turns back
and leads elsewhere then. -/
lemma IsFree.made (free : IsFree ps dataDir d) (tidy : d.Tidy)
    (known : (∃ n, d.base dataDir = .ok n) ∨ ".." ∉ dataDir.parts) :
    IsFree ps dataDir (makeDirectories dataDir d).2 := by
  intro pid named
  refine free pid ?_
  cases read : (makeDirectories dataDir d).2.read (path dataDir) with
  | error e =>
    rw [holder?, read] at named
    cases named
  | ok text =>
    have before := (unwritten_makeDirectories tidy dataDir).read_of_read plain_fileName known read
    rw [holder?, read] at named
    rw [holder?, path, before]
    exact named

end Quorum.Lock
