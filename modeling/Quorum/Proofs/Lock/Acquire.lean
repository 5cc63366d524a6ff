import Quorum.Proofs.Disk.Frame
import Quorum.Proofs.Lock.Operation

/-!
# Taking a lock, undisturbed

Taking the lock and giving it back touches no file but the lock file. If no living process holds the
lock, nothing but an operation that fails can keep a process from taking it.
-/

namespace Quorum.Lock

open Disk (Spares)

variable {ps : Processes} {dataDir : Path} {stage next : Stage} {d d' : Disk}

lemma name_of_locate_path {s : Slot} (h : d.locate (path dataDir) = .ok (.slot s)) :
    s.name = fileName :=
  Disk.name_of_locate_join (by decide) (by decide) h

/-! ### Other files -/

lemma Operates.spares (h : Operates ps dataDir stage d next d') (tidy : d.Tidy) :
    Spares fileName d d' := by
  cases h with
  | clears removed =>
    obtain ⟨s, text, found, rfl⟩ := Disk.exists_of_remove removed
    obtain ⟨located, there, _⟩ := Disk.findFile_eq_ok_iff.mp found
    exact name_of_locate_path located ▸ Spares.drop tidy there
  | creates created =>
    obtain ⟨s, located, free, _, rfl⟩ := Disk.exists_of_createNew created
    exact name_of_locate_path located ▸ Spares.put tidy (Disk.noDirectory_of_none free) ""
  | signs written =>
    obtain ⟨s, old, found, rfl⟩ := Disk.exists_of_append written
    obtain ⟨located, there, _⟩ := Disk.findFile_eq_ok_iff.mp found
    exact name_of_locate_path located ▸ Spares.put tidy (Disk.noDirectory_of_file there) _
  | _ => exact .refl tidy

lemma spares_steps (n : Nat) : ∀ {stage : Stage} {d : Disk}, d.Tidy →
    Spares fileName d (steps ps dataDir n stage d).2 := by
  induction n with
  | zero => exact fun tidy => .refl tidy
  | succ n ih =>
    intro stage d tidy
    rcases stepped : step ps dataDir stage d with ⟨next, d'⟩
    have first := (Operates.of_step stepped).spares tidy
    simp only [steps, stepped]
    exact first.trans (ih first.tidy)

/-- Whether or not the lock can be taken, no other file is touched. -/
theorem spares_acquire (ps : Processes) (dataDir : Path) (tidy : d.Tidy) :
    Spares fileName d (acquire ps dataDir d).2 := by
  have made : Spares fileName d (makeDirectories dataDir d).2 := spares_makeDirectories tidy dataDir
  unfold acquire
  split
  · rename_i failed
    rw [failed] at made
    exact made
  · rename_i d' succeeded
    rw [succeeded] at made
    have taken : Spares fileName d' (steps ps dataDir 5 .reading d').2 := spares_steps 5 made.tidy
    split
    · rename_i refused
      rw [refused] at taken
      exact made.trans taken
    · rename_i ended
      rw [ended] at taken
      exact made.trans taken

theorem spares_release (dataDir : Path) (tidy : d.Tidy) :
    Spares fileName d (release dataDir d) := by
  unfold release
  cases removed : d.remove (path dataDir) with
  | error e => exact .refl tidy
  | ok d' =>
    have cleared : Operates ⟨0, fun _ => false⟩ dataDir .clearing d .creating d' := .clears removed
    exact cleared.spares tidy

/-! ### Free locks -/

/-- No living process holds the lock. -/
def IsFree (ps : Processes) (dataDir : Path) (d : Disk) : Prop :=
  ∀ pid, holder? dataDir d = some pid → ps.isAlive pid = false

/-- From this stage on, nobody else is met. -/
def Stage.Clear (ps : Processes) (dataDir : Path) (d : Disk) : Stage → Prop
  | .reading => IsFree ps dataDir d
  | .probing pid => ps.isAlive pid = false
  | .creating => d.exists? (path dataDir) = false
  | .yielding => False
  | .refused reason => ∃ cause, reason = .io cause
  | .looking | .clearing | .signing | .held => True

/-- A file that was removed is not there. -/
lemma exists?_of_remove {p : Path} (tidy : d.Tidy) (h : d.remove p = .ok d') :
    d'.exists? p = false := by
  obtain ⟨s, text, found, rfl⟩ := Disk.exists_of_remove h
  obtain ⟨located, there, _⟩ := Disk.findFile_eq_ok_iff.mp found
  have same := Disk.SameDirectories.drop tidy (Disk.noDirectory_of_file there)
  have located := same.locate_eq_ok tidy (tidy.drop s) located
  have gone : (d.drop s).lookup? s = none := by rw [Disk.lookup?_drop, if_pos rfl]
  simp [Disk.exists?, Disk.isDirectory, Disk.findFile, Disk.findDirectory, Disk.enter, located,
    gone, Except.isOk, Except.toBool]

/-- No path is led astray because something is there. -/
lemma locate_ne_alreadyExists (d : Disk) (p : Path) : d.locate p ≠ .error .alreadyExists := by
  have enters (place : Disk.Place) : d.enter place ≠ .error .alreadyExists := by
    unfold Disk.enter
    split
    · nofun
    · split <;> nofun
  have steps (place : Disk.Place) (part : String) : d.step place part ≠ .error .alreadyExists := by
    unfold Disk.step
    split
    · rename_i e entered
      rintro ⟨rfl⟩
      exact enters place entered
    · split
      · nofun
      · split
        · nofun
        · split <;> nofun
  have walk (parts : List String) :
      ∀ start, parts.foldlM d.step start ≠ .error .alreadyExists := by
    induction parts with
    | nil => exact nofun
    | cons part parts ih =>
      intro start
      rw [List.foldlM_cons]
      cases first : d.step start part with
      | error e =>
        rintro ⟨rfl⟩
        exact steps start part first
      | ok next => exact ih next
  unfold Disk.locate
  split
  · nofun
  · split
    · nofun
    · split
      · nofun
      · exact walk _ _

/-- Only something that is there can be in the way of a new file. -/
lemma exists?_of_createNew {p : Path} (h : d.createNew p = .error .alreadyExists) :
    d.exists? p = true := by
  unfold Disk.createNew at h
  unfold Disk.exists? Disk.isDirectory Disk.findDirectory Disk.findFile
  split at h
  · rename_i e failed
    cases h
    exact absurd failed (locate_ne_alreadyExists d p)
  · rename_i number located
    rw [located]
    rfl
  · rename_i s located
    split at h
    · cases h
    · rename_i slash
      split at h
      · rename_i there
        obtain ⟨entry, there⟩ := Option.isSome_iff_exists.mp there
        simp only [located, Disk.enter, there]
        cases entry with
        | file text => simp [slash, Except.isOk, Except.toBool]
        | directory number => rfl
      · cases h

lemma Stage.Clear.step (h : stage.Clear ps dataDir d) (tidy : d.Tidy)
    (stepped : step ps dataDir stage d = (next, d')) : next.Clear ps dataDir d' := by
  cases stage with
  | reading =>
    simp only [Lock.step] at stepped
    split at stepped <;> cases stepped
    · rename_i pid named
      exact h pid named
    · trivial
  | probing pid =>
    have dead : ps.isAlive pid = false := h
    simp only [Lock.step, dead] at stepped
    cases stepped
    trivial
  | looking =>
    simp only [Lock.step] at stepped
    split at stepped <;> cases stepped
    · trivial
    · rename_i nothing
      simpa [Clear] using nothing
  | clearing =>
    simp only [Lock.step] at stepped
    split at stepped <;> cases stepped
    · rename_i removed
      exact exists?_of_remove tidy removed
    · exact ⟨_, rfl⟩
  | creating =>
    have nothing : d.exists? (path dataDir) = false := h
    simp only [Lock.step] at stepped
    split at stepped <;> cases stepped
    · trivial
    · rename_i in_the_way
      rw [exists?_of_createNew in_the_way] at nothing
      cases nothing
    · exact ⟨_, rfl⟩
  | yielding => cases h
  | signing =>
    simp only [Lock.step] at stepped
    split at stepped <;> cases stepped
    · trivial
    · exact ⟨_, rfl⟩
  | held =>
    cases stepped
    trivial
  | refused reason =>
    cases stepped
    exact h

lemma clear_steps (n : Nat) : ∀ {stage : Stage} {d : Disk}, d.Tidy → stage.Clear ps dataDir d →
    (steps ps dataDir n stage d).1.Clear ps dataDir (steps ps dataDir n stage d).2 := by
  induction n with
  | zero => exact fun _ clear => clear
  | succ n ih =>
    intro stage d tidy clear
    rcases stepped : step ps dataDir stage d with ⟨next, d'⟩
    simp only [steps, stepped]
    exact ih ((Operates.of_step stepped).spares tidy).tidy (clear.step tidy stepped)

/-- In a directory that is there, a free lock is taken unless an operation fails. -/
theorem acquire_of_isFree (tidy : d.Tidy) (made : makeDirectories dataDir d = (.ok (), d))
    (free : IsFree ps dataDir d) :
    (acquire ps dataDir d).1 = .ok () ∨ ∃ cause, (acquire ps dataDir d).1 = .error (.io cause) := by
  have start : Stage.reading.Clear ps dataDir d := free
  have clear := clear_steps 5 tidy start
  rcases ended : steps ps dataDir 5 .reading d with ⟨stage, d'⟩
  rw [ended] at clear
  cases stage with
  | refused reason =>
    obtain ⟨cause, rfl⟩ := clear
    exact .inr ⟨cause, by simp only [acquire, made, ended]⟩
  | _ => exact .inl (by simp only [acquire, made, ended])

end Quorum.Lock
