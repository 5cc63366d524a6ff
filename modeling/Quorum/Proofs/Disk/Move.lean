import Quorum.Proofs.Disk.Frame

/-!
# What moves

A file or a directory that is given another name in the directory where it stands takes nothing else
with it. A path that led somewhere before and leads somewhere after leads to the same place.
-/

namespace Quorum.Disk

variable {d d' : Disk} {s t : Slot} {p : Path} {entry : Entry} {name : String}

/-! ### Above a directory -/

lemma above_of_lookup? (tidy : d.Tidy) (unshared : d.Unshared) {number : Nat}
    (there : d.lookup? s = some (.directory number)) : d.above number = s.directory := by
  unfold above
  cases found : d.entries.find? (·.2 = .directory number) with
  | none =>
    have other := List.find?_eq_none.mp found _ (mem_of_lookup? there)
    simp at other
  | some e =>
    obtain ⟨t, entry⟩ := e
    obtain rfl : entry = .directory number := by simpa using List.find?_some found
    have at_t := tidy.lookup?_eq_some_iff.mpr (List.mem_of_find?_eq_some found)
    rw [unshared s t number there at_t]
    rfl

lemma above_of_nowhere (tidy : d.Tidy) {number : Nat}
    (nowhere : ∀ s, d.lookup? s ≠ some (.directory number)) : d.above number = top := by
  unfold above
  cases found : d.entries.find? (·.2 = .directory number) with
  | none => rfl
  | some e =>
    obtain ⟨t, entry⟩ := e
    obtain rfl : entry = .directory number := by simpa using List.find?_some found
    exact absurd (tidy.lookup?_eq_some_iff.mpr (List.mem_of_find?_eq_some found)) (nowhere t)

/-! ### Paths that lead somewhere before and after -/

/-- Wherever one can walk on both disks, one gets to the same place. -/
structure Agrees (d d' : Disk) : Prop where
  workDir : d'.workDir = d.workDir
  above : ∀ number, d'.above number = d.above number
  enter : ∀ place number number', d.enter place = .ok number → d'.enter place = .ok number' →
    number' = number

namespace Agrees

lemma step (h : Agrees d d') {place next next' : Place} {part : String}
    (led : d.step place part = .ok next) (led' : d'.step place part = .ok next') :
    next' = next := by
  unfold Disk.step at led led'
  split at led
  · cases led
  · rename_i number entered
    split at led'
    · cases led'
    · rename_i number' entered'
      obtain rfl := h.enter place number number' entered entered'
      rw [h.above, led] at led'
      exact (Except.ok.inj led').symm

lemma locate (h : Agrees d d') {place place' : Place} (led : d.locate p = .ok place)
    (led' : d'.locate p = .ok place') : place' = place := by
  have walk (parts : List String) : ∀ {start place place' : Place},
      parts.foldlM d.step start = .ok place → parts.foldlM d'.step start = .ok place' →
      place' = place := by
    induction parts with
    | nil =>
      intro start place place' led led'
      cases led
      cases led'
      rfl
    | cons part parts ih =>
      intro start place place' led led'
      obtain ⟨next, first, rest⟩ := List.foldlM_cons_eq_ok_iff.mp led
      obtain ⟨next', first', rest'⟩ := List.foldlM_cons_eq_ok_iff.mp led'
      obtain rfl := h.step first first'
      exact ih rest rest'
  obtain ⟨_, led⟩ := locate_eq_ok_iff.mp led
  obtain ⟨_, led'⟩ := locate_eq_ok_iff.mp led'
  have start_eq : d'.start p = d.start p := by rw [start, h.workDir, start]
  exact walk _ led (start_eq ▸ led')

/-- Names that are joined to a path stand in the same directory. -/
lemma base (h : Agrees d d') {directory : Path} {number number' : Nat}
    (found : d.base directory = .ok number) (found' : d'.base directory = .ok number') :
    number' = number := by
  unfold Disk.base at found found'
  split at found
  · rename_i here
    rw [if_pos here, h.workDir] at found'
    exact Except.ok.inj (found'.symm.trans found)
  · rename_i given
    rw [if_neg given] at found'
    unfold findDirectory at found found'
    split at found
    · cases found
    · rename_i place located
      split at found'
      · cases found'
      · rename_i place' located'
        rw [h.locate located located'] at found'
        exact h.enter place number number' found found'

end Agrees

/-! ### Another name in the same directory -/

lemma eq_of_move (h : d.move s t entry = .ok d') (apart : s ≠ t) :
    d' = (d.drop s).put t entry := by
  unfold move at h
  split at h
  · cases h
  · exact (Except.ok.inj h).symm
  · rw [if_neg apart] at h
    split at h
    · cases h
    · split at h
      · cases h
      · split at h
        · exact (Except.ok.inj h).symm
        · cases h
      · exact (Except.ok.inj h).symm

lemma lookup?_moved (d : Disk) (apart : s ≠ t) (u : Slot) :
    ((d.drop s).put t entry).lookup? u
      = if u = t then some entry else if u = s then none else d.lookup? u := by
  rw [lookup?_put, lookup?_drop]
  by_cases at_t : t = u
  · simp [at_t]
  · by_cases at_s : s = u
    · subst at_s
      simp [apart, at_t]
    · simp [at_t, at_s, Ne.symm at_t, Ne.symm at_s]

/-- Something that is moved to a free name stands in one place, as before. -/
lemma Unshared.moved (h : d.Unshared) (there : d.lookup? s = some entry) (apart : s ≠ t) :
    ((d.drop s).put t entry).Unshared := by
  have old {u : Slot} {number : Nat} (other : u ≠ t)
      (found : ((d.drop s).put t entry).lookup? u = some (.directory number)) :
      d.lookup? u = some (.directory number) ∧ u ≠ s := by
    rw [lookup?_moved d apart, if_neg other] at found
    split at found
    · cases found
    · exact ⟨found, by assumption⟩
  have new {number : Nat}
      (found : ((d.drop s).put t entry).lookup? t = some (.directory number)) :
      d.lookup? s = some (.directory number) := by
    rw [lookup?_moved d apart, if_pos rfl] at found
    rw [there, found]
  intro u v number at_u at_v
  by_cases u_new : u = t <;> by_cases v_new : v = t
  · exact u_new.trans v_new.symm
  · subst u_new
    obtain ⟨at_v, other⟩ := old v_new at_v
    exact absurd (h v s number at_v (new at_u)) other
  · subst v_new
    obtain ⟨at_u, other⟩ := old u_new at_u
    exact absurd (h u s number at_u (new at_v)) other
  · exact h u v number (old u_new at_u).1 (old v_new at_v).1

/-- What is moved to a free name in the same directory leads no path elsewhere. -/
lemma agrees_moved (tidy : d.Tidy) (unshared : d.Unshared) (there : d.lookup? s = some entry)
    (apart : s ≠ t) (free : d.lookup? t = none) (beside : s.directory = t.directory) :
    Agrees d ((d.drop s).put t entry) := by
  have tidy' : ((d.drop s).put t entry).Tidy := (tidy.drop s).put t entry
  have unshared' := unshared.moved (t := t) there apart
  refine ⟨rfl, fun number => ?_, fun place number number' entered entered' => ?_⟩
  · by_cases somewhere : ∃ u, d.lookup? u = some (.directory number)
    · obtain ⟨u, at_u⟩ := somewhere
      rw [above_of_lookup? tidy unshared at_u]
      by_cases moved : u = s
      · subst moved
        rw [there] at at_u
        have at_t : ((d.drop u).put t entry).lookup? t = some (.directory number) := by
          rw [lookup?_moved d apart, if_pos rfl, at_u]
        rw [above_of_lookup? tidy' unshared' at_t, beside]
      · have other : u ≠ t := by
          rintro rfl
          rw [free] at at_u
          cases at_u
        refine above_of_lookup? tidy' unshared' ?_
        rw [lookup?_moved d apart, if_neg other, if_neg moved, at_u]
    · have nowhere (u : Slot) : d.lookup? u ≠ some (.directory number) :=
        fun at_u => somewhere ⟨u, at_u⟩
      rw [above_of_nowhere tidy nowhere]
      refine above_of_nowhere tidy' fun u at_u => ?_
      rw [lookup?_moved d apart] at at_u
      split at at_u
      · exact nowhere s (there.trans at_u)
      · split at at_u
        · cases at_u
        · exact nowhere u at_u
  · cases place with
    | directory n =>
      cases entered
      cases entered'
      rfl
    | slot u =>
      simp only [enter] at entered entered'
      rw [lookup?_moved d apart] at entered'
      by_cases at_t : u = t
      · subst at_t
        rw [free] at entered
        cases entered
      · by_cases at_s : u = s
        · rw [if_neg at_t, if_pos at_s] at entered'
          cases entered'
        · rw [if_neg at_t, if_neg at_s] at entered'
          rw [entered] at entered'
          exact (Except.ok.inj entered').symm

end Quorum.Disk
