import Mathlib.Data.List.Induction
import Quorum.Proofs.Disk.Entry

/-!
# Disks on which no file was touched

Work that only makes directories leaves every file where it is, with its text. A directory that it
made is empty, so a path that comes to a file after it came to that file before, unless the path
turns back on its way.
-/

namespace Quorum

namespace Disk

open Quorum.Path (Plain)

variable {d d' d'' : Disk} {s : Slot} {p directory : Path} {name text : String} {n number : Nat}
  {place start : Place} {parts : List String}

/-- There may be new directories; all else is as it was. -/
def Unwritten (d d' : Disk) : Prop :=
  ∀ name, Spares name d d'

namespace Unwritten

lemma refl (tidy : d.Tidy) : Unwritten d d :=
  fun _ => .refl tidy

lemma trans (h : Unwritten d d') (h' : Unwritten d' d'') : Unwritten d d'' :=
  fun name => (h name).trans (h' name)

lemma tidy (h : Unwritten d d') : d'.Tidy :=
  (h "").tidy

lemma unshared (h : Unwritten d d') (alone : d.Unshared) : d'.Unshared :=
  (h "").unshared alone

lemma leads (h : Unwritten d d') : Leads d d' :=
  (h "").leads

lemma base_eq_ok (h : Unwritten d d') (base : d.base p = .ok n) : d'.base p = .ok n :=
  (h "").base_eq_ok base

lemma file?_eq (h : Unwritten d d') (s : Slot) : d'.file? s = d.file? s := by
  refine (h (s.name ++ ".")).file?_eq s fun same => ?_
  have chars := congrArg String.toList same
  simp at chars

/-- A directory stands where it stood, or is a new one, and then nothing was in it. -/
lemma directory_or_empty (h : Unwritten d d') (there : d'.lookup? s = some (.directory number)) :
    d.lookup? s = some (.directory number) ∨ ∀ name, d.lookup? ⟨number, name⟩ = none := by
  rcases (h "").vacant s number there with standing | free
  · exact .inl standing
  · rcases (h ".").vacant s number there with standing | free'
    · exact .inl standing
    · right
      intro name
      by_cases given : name = ""
      · exact free' name (by rw [given]; decide)
      · exact free name given

/-! ### Going back -/

/-- A way that does not turn back, and that comes to a directory in which something was, was there
before. -/
lemma walk_of_walk (h : Unwritten d d') (led : parts.foldlM d'.step (.directory number) = .ok place)
    (straight : ".." ∉ parts) (entered : d'.enter place = .ok n)
    (there : ∃ name entry, d.lookup? ⟨n, name⟩ = some entry) :
    parts.foldlM d.step (.directory number) = .ok place ∧ d.enter place = .ok n := by
  induction parts using List.reverseRecOn generalizing place n with
  | nil =>
    cases led
    exact ⟨rfl, entered⟩
  | append_singleton parts part ih =>
    obtain ⟨middle, before, last⟩ := List.foldlM_append_eq_ok_iff.mp led
    obtain ⟨_, stepped, ⟨⟩⟩ := List.foldlM_cons_eq_ok_iff.mp last
    obtain ⟨m, middle_entered, follows⟩ := exists_of_step stepped
    have straight_before : ".." ∉ parts := fun mem => straight (List.mem_append_left _ mem)
    -- where something was in the last directory but one, the way to that one was there
    have before_of (there : ∃ name entry, d.lookup? ⟨m, name⟩ = some entry) {next : Place}
        (goes_on : d.enter middle = .ok m → d.step middle part = .ok next) :
        (parts ++ [part]).foldlM d.step (.directory number) = .ok next := by
      obtain ⟨led, entered⟩ := ih before straight_before middle_entered there
      exact List.foldlM_append_eq_ok_iff.mpr
        ⟨middle, led, List.foldlM_cons_eq_ok_iff.mpr ⟨next, goes_on entered, rfl⟩⟩
    cases follows with
    | here =>
      cases entered
      exact ⟨before_of there fun entered => by simp [step, entered], rfl⟩
    | up => exact absurd (List.mem_append_right _ (List.mem_singleton_self _)) straight
    | down named short =>
      simp only [enter] at entered ⊢
      split at entered
      · cases entered
      · cases entered
      · rename_i stands
        cases entered
        rcases h.directory_or_empty stands with stood | empty
        · refine ⟨before_of ⟨_, _, stood⟩ fun entered => ?_, by rw [stood]⟩
          simp [step, entered, named.1, named.2, Nat.not_lt.mpr short]
        · obtain ⟨name, entry, there⟩ := there
          rw [empty name] at there
          cases there

lemma base_of_base (h : Unwritten d d') (straight : ".." ∉ p.parts) (base : d'.base p = .ok n)
    (there : ∃ name entry, d.lookup? ⟨n, name⟩ = some entry) : d.base p = .ok n := by
  unfold Disk.base at base ⊢
  split
  · rename_i here
    rw [if_pos here, (h "").workDir] at base
    exact base
  · rename_i given
    rw [if_neg given] at base
    unfold findDirectory at base ⊢
    split at base
    · cases base
    · rename_i place located
      obtain ⟨followable, led⟩ := locate_eq_ok_iff.mp located
      rw [start, (h "").workDir] at led
      obtain ⟨led, entered⟩ := h.walk_of_walk led straight base there
      rw [locate_eq_ok_iff.mpr ⟨followable, led⟩]
      exact entered

/-- A file that is read in a directory was read there before, if the directory was there or the path
to it does not turn back. -/
lemma read_of_read (h : Unwritten d d') (plain : Plain name)
    (known : (∃ n, d.base directory = .ok n) ∨ ".." ∉ directory.parts)
    (read : d'.read (Path.join directory name) = .ok text) :
    d.read (Path.join directory name) = .ok text := by
  obtain ⟨n, base', shelved⟩ := (Disk.read_join_eq_ok_iff plain).mp read
  obtain ⟨fits, there⟩ := shelf_eq_some_iff.mp shelved
  have there : d.lookup? ⟨n, name⟩ = some (.file text) := by
    rw [← file?_eq_some_iff, ← h.file?_eq, file?_eq_some_iff]
    exact there
  refine (Disk.read_join_eq_ok_iff plain).mpr ⟨n, ?_, shelf_eq_some_iff.mpr ⟨fits, there⟩⟩
  rcases known with ⟨m, base⟩ | straight
  · obtain rfl : m = n := by
      rw [h.base_eq_ok base] at base'
      exact Except.ok.inj base'
    exact base
  · exact h.base_of_base straight base' ⟨name, _, there⟩

end Unwritten

end Disk

open Disk (Unwritten)

lemma unwritten_makeDirectories {d : Disk} (tidy : d.Tidy) (p : Path) :
    Unwritten d (makeDirectories p d).2 :=
  fun _ => spares_makeDirectories tidy p

end Quorum
