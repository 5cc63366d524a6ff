import Quorum.Lock
import Quorum.Proofs.Disk.Files
import Quorum.Proofs.Text.Digits
import Quorum.Proofs.Text.Trim

/-!
# What an operation of taking a lock can do

Only three operations change the disk: the file in the way is removed, a new one is made, and the
number of the process is written into it.
-/

namespace Quorum.Lock

variable {ps : Processes} {dataDir : Path} {stage next : Stage} {d d' : Disk} {p : ProcessId}

/-! ### Reading what was written -/

/-- A number is read back from its digits. -/
lemma readBounded?_digits {bound n : Nat} (fits : n < bound) :
    Text.readBounded? bound (Text.digits n) = some n := by
  have no_sign : (Text.digits n).head? ≠ some '+' := by
    intro sign
    have digit := Text.isDigit_of_mem_digits (List.mem_of_mem_head? sign)
    revert digit
    decide
  have all_digits : (Text.digits n).all Text.isDigit = true :=
    List.all_eq_true.mpr fun c hc => Text.isDigit_of_mem_digits hc
  simp [Text.readBounded?, no_sign, all_digits, fits]

/-- A lock file names the process that signed it. -/
lemma holder?_of_read (h : d.read (path dataDir) = .ok (signature p)) :
    holder? dataDir d = some p := by
  have bare : Text.trim (Text.digits p.toNat) = Text.digits p.toNat :=
    Text.trim_of_all_not_blank fun c hc => Text.isBlank_of_isDigit (Text.isDigit_of_mem_digits hc)
  have fits : p.toNat < UInt32.size := p.toNat_lt
  simp [holder?, h, signature, bare, readBounded?_digits fits]

/-! ### Operations -/

/-- One operation of a process that takes the lock, with what it finds. -/
inductive Operates (ps : Processes) (dataDir : Path) : Stage → Disk → Stage → Disk → Prop
  | reads {d : Disk} {pid : ProcessId} (found : holder? dataDir d = some pid) :
      Operates ps dataDir .reading d (.probing pid) d
  | misses {d : Disk} (found : holder? dataDir d = none) : Operates ps dataDir .reading d .looking d
  | condemns {d : Disk} {pid : ProcessId} (dead : ps.isAlive pid = false) :
      Operates ps dataDir (.probing pid) d .clearing d
  | sees {d : Disk} : Operates ps dataDir .looking d .clearing d
  | passes {d : Disk} : Operates ps dataDir .looking d .creating d
  | clears {d d' : Disk} (removed : d.remove (path dataDir) = .ok d') :
      Operates ps dataDir .clearing d .creating d'
  | creates {d d' : Disk} (created : d.createNew (path dataDir) = .ok d') :
      Operates ps dataDir .creating d .signing d'
  | comesLate {d : Disk} : Operates ps dataDir .creating d .yielding d
  | signs {d d' : Disk} (written : d.append (path dataDir) (signature ps.self) = .ok d') :
      Operates ps dataDir .signing d .held d'
  | refuses {stage : Stage} {reason : Storage.Error} {d : Disk} (taking : stage ≠ .held) :
      Operates ps dataDir stage d (.refused reason) d
  | rests {d : Disk} : Operates ps dataDir .held d .held d

lemma Operates.of_step (h : step ps dataDir stage d = (next, d')) :
    Operates ps dataDir stage d next d' := by
  cases stage with
  | reading =>
    simp only [step] at h
    split at h <;> cases h
    · exact .reads (by assumption)
    · exact .misses (by assumption)
  | probing pid =>
    simp only [step] at h
    split at h <;> cases h
    · exact .refuses (by simp)
    · rename_i dead
      exact .condemns (by simpa using dead)
  | looking =>
    simp only [step] at h
    split at h <;> cases h
    · exact .sees
    · exact .passes
  | clearing =>
    simp only [step] at h
    split at h <;> cases h
    · exact .clears (by assumption)
    · exact .refuses (by simp)
  | creating =>
    simp only [step] at h
    split at h <;> cases h
    · exact .creates (by assumption)
    · exact .comesLate
    · exact .refuses (by simp)
  | yielding =>
    cases h
    exact .refuses (by simp)
  | signing =>
    simp only [step] at h
    split at h <;> cases h
    · exact .signs (by assumption)
    · exact .refuses (by simp)
  | held =>
    cases h
    exact .rests
  | refused reason =>
    cases h
    exact .refuses (by simp)

end Quorum.Lock
