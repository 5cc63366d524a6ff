import Quorum.Proofs.Disk.Frame

/-!
# Plans and where they stop

A plan stops where one of its operations fails, or where the machine does. What comes before is done
then, and a file that was being written may hold any text. Files that no operation is about stay as
they were, however far a plan gets.
-/

namespace Quorum

variable {d d' next : Disk} {op : FileOp} {ops ops' : List FileOp} {s : Slot} {fault : Option Fault}
  {e : IoError}

namespace FileOp

/-- The paths under which an operation changes something. -/
def targets : FileOp → List Path
  | .remove path | .create path | .append path _ => [path]
  | .rename source target => [source, target]
  | .copy _ target => [target]
  | .sync _ => []

/-- What may be there when a plan stops in an operation: what was there before, but for the file that
was being written. -/
inductive Leaves : FileOp → Disk → Disk → Prop
  | nothing (op : FileOp) (d : Disk) : Leaves op d d
  | added {path : Path} {text : String} {d d' : Disk} (part : String)
      (appended : d.append path part = .ok d') : Leaves (.append path text) d d'
  | copied {source target : Path} {d d' : Disk} (part : String)
      (written : d.write target part = .ok d') : Leaves (.copy source target) d d'

end FileOp

open FileOp (Leaves)

/-- A plan stops in one of its operations, after those before it are done. -/
inductive Stops : List FileOp → Disk → Disk → Prop
  | here {op : FileOp} {ops : List FileOp} {d d' : Disk} (left : op.Leaves d d') :
      Stops (op :: ops) d d'
  | later {op : FileOp} {ops : List FileOp} {d next d' : Disk} (applied : op.apply d = .ok next)
      (rest : Stops ops next d') : Stops (op :: ops) d d'

/-- What is there when a plan stops, or when it is done. -/
def Reaches (ops : List FileOp) (d d' : Disk) : Prop :=
  Stops ops d d' ∨ ops.foldlM FileOp.apply d = .ok d'

/-! ### Where a plan stops -/

lemma not_stops_nil : ¬ Stops [] d d' :=
  nofun

lemma stops_cons_iff : Stops (op :: ops) d d' ↔
    op.Leaves d d' ∨ ∃ next, op.apply d = .ok next ∧ Stops ops next d' := by
  constructor
  · intro stops
    cases stops with
    | here left => exact .inl left
    | later applied rest => exact .inr ⟨_, applied, rest⟩
  · rintro (left | ⟨next, applied, rest⟩)
    · exact .here left
    · exact .later applied rest

/-- One plan after another stops in the first, or in the second after the first is done. -/
lemma stops_append_iff : Stops (ops ++ ops') d d' ↔
    Stops ops d d' ∨ ∃ next, ops.foldlM FileOp.apply d = .ok next ∧ Stops ops' next d' := by
  induction ops generalizing d with
  | nil =>
    constructor
    · exact fun stops => .inr ⟨d, rfl, stops⟩
    · rintro (stops | ⟨_, ⟨rfl⟩, stops⟩)
      · exact absurd stops not_stops_nil
      · exact stops
  | cons op ops ih =>
    simp only [List.cons_append, stops_cons_iff, List.foldlM_cons_eq_ok_iff, ih]
    constructor
    · rintro (left | ⟨first, applied, stops | ⟨next, done, stops⟩⟩)
      · exact .inl (.inl left)
      · exact .inl (.inr ⟨first, applied, stops⟩)
      · exact .inr ⟨next, ⟨first, applied, done⟩, stops⟩
    · rintro ((left | ⟨first, applied, stops⟩) | ⟨next, ⟨first, applied, done⟩, stops⟩)
      · exact .inl left
      · exact .inr ⟨first, applied, .inl stops⟩
      · exact .inr ⟨first, applied, .inr ⟨next, done, stops⟩⟩

lemma reaches_nil_iff : Reaches [] d d' ↔ d' = d := by
  constructor
  · rintro (stops | done)
    · exact absurd stops not_stops_nil
    · cases done
      rfl
  · rintro rfl
    exact .inr rfl

lemma reaches_cons_iff : Reaches (op :: ops) d d' ↔
    op.Leaves d d' ∨ ∃ next, op.apply d = .ok next ∧ Reaches ops next d' := by
  simp only [Reaches, stops_cons_iff, List.foldlM_cons_eq_ok_iff, and_or_left, exists_or, or_assoc]

lemma reaches_append_iff : Reaches (ops ++ ops') d d' ↔
    Stops ops d d' ∨ ∃ next, ops.foldlM FileOp.apply d = .ok next ∧ Reaches ops' next d' := by
  simp only [Reaches, stops_append_iff, List.foldlM_append_eq_ok_iff, and_or_left, exists_or,
    or_assoc]

/-- Nothing is renamed by half, so a plan that ends with that stops no later than before it. -/
lemma reaches_of_stops_rename {source target : Path}
    (stops : Stops (ops ++ [.rename source target]) d d') : Reaches ops d d' := by
  rcases stops_append_iff.mp stops with stops | ⟨next, done, stops⟩
  · exact .inl stops
  · rcases stops_cons_iff.mp stops with left | ⟨_, _, stops⟩
    · cases left
      exact .inr done
    · exact absurd stops not_stops_nil

lemma leaves_interrupted (op : FileOp) (d : Disk) (written : Nat) :
    op.Leaves d (op.interrupted d written) := by
  cases op with
  | append path text =>
    rw [FileOp.interrupted]
    cases added : d.append path (String.ofList (text.toList.take written)) with
    | ok d' => exact .added _ added
    | error e => exact .nothing _ d
  | remove | rename | copy | create | sync => exact .nothing _ d

/-- A plan that fails stops in the operation that fails. -/
lemma stops_of_runPlan : ∀ {fault : Option Fault} {d : Disk},
    (runPlan fault ops d).1 = .error e → Stops ops d (runPlan fault ops d).2 := by
  induction ops with
  | nil => exact nofun
  | cons op ops ih =>
    intro fault d failed
    unfold runPlan at failed ⊢
    split at failed
    · exact .here (leaves_interrupted op d _)
    · split at failed
      · exact .here (.nothing op d)
      · rename_i applied
        exact .later applied (ih failed)
    · split at failed
      · exact .here (.nothing op d)
      · rename_i applied
        exact .later applied (ih failed)

/-- A plan that succeeds is done in full. -/
lemma foldlM_of_runPlan {ops : List FileOp} : ∀ {fault : Option Fault} {d : Disk},
    (runPlan fault ops d).1 = .ok () →
      ops.foldlM FileOp.apply d = .ok (runPlan fault ops d).2 := by
  induction ops with
  | nil => exact fun _ => rfl
  | cons op ops ih =>
    intro fault d done
    rw [List.foldlM_cons]
    unfold runPlan at done ⊢
    split at done
    · cases done
    · split at done
      · cases done
      · rename_i applied
        rw [applied]
        exact ih done
    · split at done
      · cases done
      · rename_i applied
        rw [applied]
        exact ih done

lemma reaches_runPlan (fault : Option Fault) (ops : List FileOp) (d : Disk) :
    Reaches ops d (runPlan fault ops d).2 := by
  cases result : (runPlan fault ops d).1 with
  | ok => exact .inr (foldlM_of_runPlan result)
  | error e => exact .inl (stops_of_runPlan result)

/-! ### Tidiness of what follows -/

lemma Disk.Tidy.leaves (tidy : d.Tidy) (left : op.Leaves d d') : d'.Tidy := by
  cases left with
  | nothing => exact tidy
  | added part appended =>
    obtain ⟨t, _, _, rfl⟩ := Disk.exists_of_append appended
    exact tidy.put t _
  | copied part written => exact tidy.write written

lemma Disk.Tidy.reaches (tidy : d.Tidy) (reaches : Reaches ops d d') : d'.Tidy := by
  induction ops generalizing d with
  | nil => rwa [reaches_nil_iff.mp reaches]
  | cons op ops ih =>
    rcases reaches_cons_iff.mp reaches with left | ⟨next, applied, rest⟩
    · exact tidy.leaves left
    · exact ih (tidy.apply applied) rest

lemma Disk.Tidy.foldlM (tidy : d.Tidy) (done : ops.foldlM FileOp.apply d = .ok d') : d'.Tidy :=
  tidy.reaches (.inr done)

/-! ### What no operation is about -/

namespace Disk

/-- No operation that writes a file touches one that has another name. -/
lemma file?_of_write {path : Path} {text : String} (written : d.write path text = .ok d')
    (apart : path.parts.getLast? ≠ some s.name) : d'.file? s = d.file? s := by
  obtain ⟨t, free, rfl⟩ := exists_of_write written
  refine file?_put_of_ne ?_ _
  rintro rfl
  exact apart (getLast?_parts_of_locate (exists_of_fileSlot free).1)

lemma file?_of_append {path : Path} {text : String} (appended : d.append path text = .ok d')
    (apart : path.parts.getLast? ≠ some s.name) : d'.file? s = d.file? s := by
  obtain ⟨t, _, found, rfl⟩ := exists_of_append appended
  refine file?_put_of_ne ?_ _
  rintro rfl
  exact apart (getLast?_parts_of_locate (findFile_eq_ok_iff.mp found).1)

end Disk

/-- An operation leaves all files alone that have other names than it is given. -/
lemma file?_of_apply (applied : op.apply d = .ok d')
    (apart : ∀ p ∈ op.targets, p.parts.getLast? ≠ some s.name) : d'.file? s = d.file? s := by
  have other {p : Path} {t : Slot} (target : p ∈ op.targets) (located : d.locate p = .ok (.slot t)) :
      t ≠ s := by
    rintro rfl
    exact apart p target (Disk.getLast?_parts_of_locate located)
  cases op with
  | remove p =>
    obtain ⟨t, _, found, rfl⟩ := Disk.exists_of_remove applied
    exact Disk.file?_drop_of_ne (other List.mem_cons_self (Disk.findFile_eq_ok_iff.mp found).1)
  | rename source target =>
    obtain ⟨t, u, e, located, located', _, moved, _⟩ := Disk.exists_of_rename applied
    rcases Disk.move_cases moved with rfl | rfl
    · rfl
    · rw [Disk.file?_put_of_ne (other (by simp [FileOp.targets]) located'),
        Disk.file?_drop_of_ne (other List.mem_cons_self located)]
  | copy source target =>
    obtain ⟨_, _, written⟩ := Disk.exists_of_copy applied
    exact Disk.file?_of_write written (apart target List.mem_cons_self)
  | create p => exact Disk.file?_of_write applied (apart p List.mem_cons_self)
  | append p text => exact Disk.file?_of_append applied (apart p List.mem_cons_self)
  | sync =>
    cases applied
    rfl

lemma file?_of_leaves (left : op.Leaves d d')
    (apart : ∀ p ∈ op.targets, p.parts.getLast? ≠ some s.name) : d'.file? s = d.file? s := by
  cases left with
  | nothing => rfl
  | added part appended => exact Disk.file?_of_append appended (apart _ List.mem_cons_self)
  | copied part written => exact Disk.file?_of_write written (apart _ List.mem_cons_self)

/-- So does a plan, how far it ever gets. -/
lemma file?_of_reaches (reaches : Reaches ops d d')
    (apart : ∀ op ∈ ops, ∀ p ∈ op.targets, p.parts.getLast? ≠ some s.name) :
    d'.file? s = d.file? s := by
  induction ops generalizing d with
  | nil => rw [reaches_nil_iff.mp reaches]
  | cons op ops ih =>
    rw [List.forall_mem_cons] at apart
    rcases reaches_cons_iff.mp reaches with left | ⟨next, applied, rest⟩
    · exact file?_of_leaves left apart.1
    · rw [ih rest apart.2, file?_of_apply applied apart.1]

end Quorum
