/-!
# Paths

A path as it is written: parts between slashes. Here is what its text says; where it leads depends
on the disk.
-/

namespace Quorum

abbrev Path := String

namespace Path

/-- The pieces of a text between its slashes. -/
def pieces : List Char → List (List Char)
  | [] => [[]]
  | c :: cs =>
    if c = '/' then [] :: pieces cs
    else
      match pieces cs with
      | [] => [[c]]
      | first :: rest => (c :: first) :: rest

/-- The parts of a path; slashes in a row count as one. -/
def parts (p : Path) : List String :=
  ((pieces p.toList).filter (· ≠ [])).map String.ofList

/-- Whether a path says where it starts. -/
def isAbsolute (p : Path) : Bool :=
  p.toList.head? = some '/'

/-- Whether a path ends in a slash, and so can only lead to a directory. -/
def endsInSlash (p : Path) : Bool :=
  p.toList.getLast? = some '/'

/-- The path of some parts. -/
def ofParts (absolute : Bool) (parts : List String) : Path :=
  (if absolute then "/" else "") ++ "/".intercalate parts

/-- The paths to the directories that a path leads through, the last one first. A part that is a
point leads nowhere, and is left out. -/
def parents (p : Path) : List Path :=
  let parts := p.parts.filter (· ≠ ".")
  ((List.range parts.length).drop 1).reverse.map fun n => ofParts p.isAbsolute (parts.take n)

/-- The path of a name in a directory. -/
def join (directory : Path) (name : String) : Path :=
  if isAbsolute name ∨ directory = "" then name
  else if directory.endsInSlash then directory ++ name
  else directory ++ "/" ++ name

/-- Whether a file name ends in `.json` and has something before that. -/
def hasJsonExtension (name : String) : Bool :=
  ['.', 'j', 's', 'o', 'n'].isSuffixOf name.toList && 5 < name.toList.length

/-! ### Parts of a joined path -/

theorem pieces_ne_nil (cs : List Char) : pieces cs ≠ [] := by
  cases cs with
  | nil => simp [pieces]
  | cons c cs =>
    unfold pieces
    split
    · simp
    · split <;> simp

theorem pieces_append_slash (xs ys : List Char) :
    pieces (xs ++ '/' :: ys) = pieces xs ++ pieces ys := by
  induction xs with
  | nil => simp [pieces]
  | cons c xs ih =>
    rw [List.cons_append, pieces, pieces, ih]
    split
    · rfl
    · cases h : pieces xs with
      | nil => exact absurd h (pieces_ne_nil xs)
      | cons first rest => rfl

theorem pieces_of_not_mem {cs : List Char} (h : '/' ∉ cs) : pieces cs = [cs] := by
  induction cs with
  | nil => rfl
  | cons c cs ih =>
    have ⟨hc, hcs⟩ := not_or.1 (mt List.mem_cons.2 h)
    simp [pieces, Ne.symm hc, ih hcs]

/-- A name without slashes is one part. -/
theorem parts_of_not_mem {name : String} (plain : '/' ∉ name.toList) (named : name ≠ "") :
    parts name = [name] := by
  have : name.toList ≠ [] := fun h => named (String.toList_inj.1 (by simpa using h))
  simp [parts, pieces_of_not_mem plain, this]

theorem isAbsolute_of_not_mem {name : String} (plain : '/' ∉ name.toList) :
    isAbsolute name = false := by
  simp only [isAbsolute, decide_eq_false_iff_not]
  exact fun first => plain (List.mem_of_mem_head? first)

/-- A plain name adds one part to those of its directory. -/
theorem parts_join (directory : Path) {name : String} (plain : '/' ∉ name.toList)
    (named : name ≠ "") : parts (join directory name) = parts directory ++ [name] := by
  have one := parts_of_not_mem plain named
  simp only [join, isAbsolute_of_not_mem plain, Bool.false_eq_true, false_or]
  split
  · next empty => subst empty; rw [one]; rfl
  · split
    · next slash =>
      obtain ⟨front, h⟩ : ∃ front, directory.toList = front ++ ['/'] := by
        rw [endsInSlash, decide_eq_true_eq, List.getLast?_eq_some_iff] at slash
        exact slash
      have front_parts : parts directory = ((pieces front).filter (· ≠ [])).map String.ofList := by
        rw [parts, h, pieces_append_slash]
        simp [pieces]
      rw [front_parts, ← one]
      simp [parts, h, pieces_append_slash]
    · rw [← one]
      simp [parts, pieces_append_slash]

/-- A plain name does not change where a path starts. -/
theorem isAbsolute_join {directory : Path} {name : String} (plain : '/' ∉ name.toList)
    (given : directory ≠ "") : isAbsolute (join directory name) = isAbsolute directory := by
  have : directory.toList ≠ [] := fun h => given (String.toList_inj.1 (by simpa using h))
  obtain ⟨c, cs, h⟩ := List.exists_cons_of_ne_nil this
  simp only [join, isAbsolute_of_not_mem plain, Bool.false_eq_true, false_or, if_neg given]
  split <;> simp [isAbsolute, h]

/-- The characters of a joined path are those of its parts, and slashes. -/
theorem mem_join {directory : Path} {name : String} {c : Char}
    (h : c ∈ (join directory name).toList) :
    c ∈ directory.toList ∨ c = '/' ∨ c ∈ name.toList := by
  unfold join at h
  split at h
  · exact .inr (.inr h)
  · split at h
    · rcases List.mem_append.1 (String.toList_append ▸ h) with h | h
      · exact .inl h
      · exact .inr (.inr h)
    · simpa [or_assoc] using h

end Path

end Quorum
