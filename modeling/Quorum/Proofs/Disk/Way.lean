import Quorum.Proofs.Disk.Move

/-!
# The way of a path

A path leads from directory to directory. After a directory was given another name, a path still
leads to where it led, unless its way went through that directory.
-/

namespace Quorum.Disk

variable {d d' : Disk} {s t : Slot} {p : Path} {place next start : Place} {part text : String}
  {parts : List String} {entry : Entry} {S : Slot → Prop}

/-- The way of a path goes on from a name. -/
def LeadsThrough (d : Disk) (p : Path) (s : Slot) : Prop :=
  ∃ before after, p.parts = before ++ after ∧ after ≠ [] ∧
    before.foldlM d.step (d.start p) = .ok (.slot s)

/-- A way goes on only from names that the path has before its last part. -/
lemma LeadsThrough.mem (h : d.LeadsThrough p s) : s.name ∈ p.parts.dropLast := by
  have walk (parts : List String) : ∀ {start : Place}, parts.foldlM d.step start = .ok (.slot s) →
      start = .slot s ∨ s.name ∈ parts := by
    induction parts with
    | nil =>
      intro start led
      cases led
      exact .inl rfl
    | cons part parts ih =>
      intro start led
      obtain ⟨next, first, rest⟩ := List.foldlM_cons_eq_ok_iff.mp led
      rcases ih rest with rfl | mem
      · obtain ⟨_, _, follows⟩ := exists_of_step first
        cases follows with
        | down => exact .inr List.mem_cons_self
      · exact .inr (List.mem_cons_of_mem _ mem)
  obtain ⟨before, after, split_eq, more, led⟩ := h
  rw [split_eq, List.dropLast_append_of_ne_nil more]
  rcases walk before led with start | mem
  · cases start
  · exact List.mem_append_left _ mem

/-- All directories are where they were, but for those that stood in certain places. -/
structure Displaces (S : Slot → Prop) (d d' : Disk) : Prop where
  workDir : d'.workDir = d.workDir
  above : ∀ number, d'.above number = d.above number
  directory : ∀ s number, ¬ S s → d.lookup? s = some (.directory number) →
    d'.lookup? s = some (.directory number)

lemma SameDirectories.displaces (h : SameDirectories d d') (tidy : d.Tidy) (tidy' : d'.Tidy) :
    Displaces (fun _ => False) d d' where
  workDir := h.workDir
  above := h.above_eq
  directory _ _ _ there := h.lookup?_directory tidy tidy' there

/-- What is given a free name in the same directory leaves all other directories alone. -/
lemma displaces_moved (tidy : d.Tidy) (unshared : d.Unshared) (there : d.lookup? s = some entry)
    (apart : s ≠ t) (free : d.lookup? t = none) (beside : s.directory = t.directory) :
    Displaces (· = s) d ((d.drop s).put t entry) where
  workDir := rfl
  above := (agrees_moved tidy unshared there apart free beside).above
  directory u number other at_u := by
    have elsewhere : u ≠ t := by
      rintro rfl
      rw [free] at at_u
      cases at_u
    rw [lookup?_moved d apart, if_neg elsewhere, if_neg other, at_u]

/-! ### File operations -/

lemma displaces_of_remove (tidy : d.Tidy) (removed : d.remove p = .ok d') :
    Displaces (fun _ => False) d d' := by
  obtain ⟨s, text, found, rfl⟩ := exists_of_remove removed
  have file := noDirectory_of_file (findFile_eq_ok_iff.mp found).2.1
  exact (SameDirectories.drop tidy file).displaces tidy (tidy.drop s)

lemma displaces_of_write (tidy : d.Tidy) (written : d.write p text = .ok d') :
    Displaces (fun _ => False) d d' := by
  obtain ⟨s, free, rfl⟩ := exists_of_write written
  have no_directory := (exists_of_fileSlot free).2.1
  exact (SameDirectories.put tidy no_directory text).displaces tidy (tidy.put s _)

lemma displaces_of_append (tidy : d.Tidy) (appended : d.append p text = .ok d') :
    Displaces (fun _ => False) d d' := by
  obtain ⟨s, old, found, rfl⟩ := exists_of_append appended
  have file := noDirectory_of_file (findFile_eq_ok_iff.mp found).2.1
  exact (SameDirectories.put tidy file (old ++ text)).displaces tidy (tidy.put s _)

/-- A file that is given another name leaves all directories alone. -/
lemma displaces_of_move_file (tidy : d.Tidy) (there : d.lookup? s = some (.file text))
    (moved : d.move s t (.file text) = .ok d') : Displaces (fun _ => False) d d' := by
  obtain ⟨free, rfl⟩ := eq_of_move_file moved
  have same := (SameDirectories.drop tidy (noDirectory_of_file there)).trans
    (SameDirectories.put (tidy.drop s) (free.drop s) text)
  exact same.displaces tidy ((tidy.drop s).put t _)

/-! ### What a way does not go through -/

namespace Displaces

variable (h : Displaces S d d')

include h

lemma step_eq_ok (led : d.step place part = .ok next) (apart : ∀ s, place = .slot s → ¬ S s) :
    d'.step place part = .ok next := by
  have enters {number : Nat} (entered : d.enter place = .ok number) :
      d'.enter place = .ok number := by
    cases place with
    | directory n => exact entered
    | slot s =>
      simp only [enter] at entered
      split at entered
      · cases entered
      · cases entered
      · rename_i there
        cases entered
        rw [enter, h.directory s _ (apart s rfl) there]
  unfold step at led ⊢
  split at led
  · cases led
  · rename_i number entered
    rw [enters entered]
    simpa only [h.above] using led

/-- A way is walked as before if no place from which it goes on is a special one. -/
lemma walk (led : parts.foldlM d.step start = .ok place)
    (apart : ∀ before after s, parts = before ++ after → after ≠ [] →
      before.foldlM d.step start = .ok (.slot s) → ¬ S s) :
    parts.foldlM d'.step start = .ok place := by
  induction parts generalizing start with
  | nil => exact led
  | cons part parts ih =>
    obtain ⟨next, first, rest⟩ := List.foldlM_cons_eq_ok_iff.mp led
    have first' : d'.step start part = .ok next := by
      refine h.step_eq_ok first fun s at_s => ?_
      exact apart [] (part :: parts) s rfl (List.cons_ne_nil _ _) (congrArg Except.ok at_s)
    refine List.foldlM_cons_eq_ok_iff.mpr ⟨next, first', ih rest ?_⟩
    intro before after s split_eq more led_before
    refine apart (part :: before) after s (by rw [split_eq, List.cons_append]) more ?_
    exact List.foldlM_cons_eq_ok_iff.mpr ⟨next, first, led_before⟩

lemma start_eq (p : Path) : d'.start p = d.start p := by
  rw [start, h.workDir, start]

/-- A path whose way is left alone leads to the same place. -/
lemma locate_eq_ok (led : d.locate p = .ok place) (apart : ∀ s, S s → ¬ d.LeadsThrough p s) :
    d'.locate p = .ok place := by
  obtain ⟨followable, led⟩ := locate_eq_ok_iff.mp led
  refine locate_eq_ok_iff.mpr ⟨followable, ?_⟩
  rw [h.start_eq]
  refine h.walk led fun before after s split_eq more led_before special => ?_
  exact apart s special ⟨before, after, split_eq, more, led_before⟩

/-- Its way goes through no other places than before. -/
lemma leadsThrough (led : d.locate p = .ok place) (apart : ∀ s, S s → ¬ d.LeadsThrough p s)
    (through : d'.LeadsThrough p t) : d.LeadsThrough p t := by
  obtain ⟨before, after, split_eq, more, led_before'⟩ := through
  obtain ⟨_, led⟩ := locate_eq_ok_iff.mp led
  rw [split_eq] at led
  obtain ⟨middle, led_before, _⟩ := List.foldlM_append_eq_ok_iff.mp led
  have walked : before.foldlM d'.step (d.start p) = .ok middle := by
    refine h.walk led_before fun first rest s before_eq _ led_first special => ?_
    refine apart s special ⟨first, rest ++ after, ?_, ?_, led_first⟩
    · rw [split_eq, before_eq, List.append_assoc]
    · exact List.append_ne_nil_of_right_ne_nil rest more
  rw [h.start_eq, walked] at led_before'
  cases led_before'
  exact ⟨before, after, split_eq, more, led_before⟩

end Displaces

end Quorum.Disk
