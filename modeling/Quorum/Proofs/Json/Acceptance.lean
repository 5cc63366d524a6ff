import Mathlib.Data.List.Forall2
import Mathlib.Tactic.SplitIfs
import Quorum.Proofs.Json.Order

/-!
# What decoders accept

A decoder gives a value for just those trees that have the form it wants. Of the members of a record
only those count that are fields; of the others it is enough that they can be read.
-/

namespace Quorum.Json

variable {α : Type} {t : Tree}

/-! ### Values without parts -/

lemma mismatch_ne_ok {wanted : String} {a : α} : mismatch wanted t ≠ .ok a := by
  intro read
  rw [mismatch] at read
  split at read <;> cases read

lemma textAs_eq_ok_iff {wanted s : String} : textAs wanted t = .ok s ↔ t = .text (some s) := by
  constructor
  · intro read
    unfold textAs at read
    split at read
    · rw [Except.ok.inj read]
    · exact absurd read mismatch_ne_ok
  · rintro rfl
    rfl

lemma parsedAs_eq_ok_iff {ε : Type} {wanted : String} {parse : String → Except ε α}
    {message : ε → String} {a : α} :
    parsedAs wanted parse message t = .ok a ↔ ∃ s, t = .text (some s) ∧ parse s = .ok a := by
  constructor
  · intro read
    rw [parsedAs] at read
    split at read
    · cases read
    · rename_i s text
      split at read
      · rename_i b parsed
        exact ⟨s, textAs_eq_ok_iff.mp text, Except.ok.inj read ▸ parsed⟩
      · cases read
  · rintro ⟨s, rfl, parsed⟩
    exact parsed_tree wanted parsed

/-- What is taken for an integer fits into sixty-four bits. -/
lemma Number.lt_size_of_quantity? {n : Number} {value : Nat}
    (taken : n.quantity? = some (.natural value)) : value < UInt64.size := by
  rw [quantity?] at taken
  split_ifs at taken with natural negative
  · cases taken
    exact natural.2.2.2
  · cases taken
  · obtain ⟨_, _, h⟩ := Option.map_eq_some_iff.mp taken
    cases h

lemma wordAs_eq_ok_iff {wanted : String} {w : UInt64} :
    wordAs wanted t = .ok w ↔ ∃ n, t = .number n ∧ n.quantity? = some (.natural w.toNat) := by
  constructor
  · intro read
    unfold wordAs at read
    split at read
    · rename_i n
      split at read
      · rename_i value taken
        rw [← Except.ok.inj read, UInt64.toNat_ofNat_of_lt' (n.lt_size_of_quantity? taken)]
        exact ⟨n, rfl, taken⟩
      · cases read
      · exact absurd read mismatch_ne_ok
    · exact absurd read mismatch_ne_ok
  · rintro ⟨n, rfl, taken⟩
    simp [wordAs, taken]

/-! ### Lists -/

lemma itemsFrom_eq_ok_iff {d : Decoder α} {closed : Bool} {index : Nat} {ts : List Tree}
    {xs : List α} : itemsFrom d closed index ts = .ok xs ↔
      closed = true ∧ List.Forall₂ (fun t x => d t = .ok x) ts xs := by
  induction ts generalizing index xs with
  | nil => cases closed <;> simp [itemsFrom, eq_comm]
  | cons t ts ih =>
    rw [itemsFrom, List.forall₂_cons_left_iff]
    constructor
    · intro read
      split at read
      · cases read
      · rename_i x item
        obtain ⟨xs, rest, rfl⟩ := exists_of_map_eq_ok read
        obtain ⟨closed, all⟩ := ih.mp rest
        exact ⟨closed, x, xs, item, all, rfl⟩
    · rintro ⟨closed, x, xs, item, all, rfl⟩
      rw [item]
      show (itemsFrom d _ (index + 1) ts).map (x :: ·) = _
      rw [ih.mpr ⟨closed, all⟩]
      rfl

lemma list_eq_ok_iff {d : Decoder α} {xs : List α} : list d t = .ok xs ↔
    ∃ ts, t = .array ts true ∧ List.Forall₂ (fun t x => d t = .ok x) ts xs := by
  constructor
  · intro read
    unfold list at read
    split at read
    · obtain ⟨rfl, all⟩ := itemsFrom_eq_ok_iff.mp read
      exact ⟨_, rfl, all⟩
    · exact absurd read mismatch_ne_ok
  · rintro ⟨ts, rfl, all⟩
    exact itemsFrom_eq_ok_iff.mpr ⟨rfl, all⟩

/-! ### Members -/

lemma Tree.membersWhole_iff {ms : List (Option String × Tree)} :
    Tree.membersWhole ms = true ↔ ∀ m ∈ ms, m.2.isWhole = true := by
  induction ms with
  | nil => simp [Tree.membersWhole]
  | cons m ms ih => rw [Tree.membersWhole, Bool.and_eq_true, ih, List.forall_mem_cons]

variable {δ : Type} {s : Shape} {set : Nat → Tree → δ → Except Problem δ} {closed : Bool}
  {seen : List Nat} {draft draft' : δ} {ms : List (Option String × Tree)}

namespace Shape

/-- The members that are fields of a record. -/
def known (s : Shape) (ms : List (Option String × Tree)) : List (Option String × Tree) :=
  ms.filter fun m => m.1 ∈ s.fields.map some

/-- A field is taken in once. -/
lemma Takes.of_known {m : Option String × Tree} {seen' : List Nat}
    (field : m.1 ∈ s.fields.map some) (h : s.Takes set seen draft m seen' draft') :
    ∃ i < s.fields.length, i ∉ seen ∧ seen' = i :: seen := by
  cases h with
  | field known new _ =>
    obtain ⟨inside, _⟩ := List.idxOf?_eq_some_iff.mp known
    exact ⟨_, inside, new, rfl⟩
  | other unknown _ =>
    obtain ⟨name, mem, same⟩ := List.mem_map.mp field
    cases same
    exact absurd mem (List.idxOf?_eq_none_iff.mp unknown)

/-- A record is made up by its fields alone, if the object ends, each member has a name, and what
is no field can be read. -/
theorem takeMembers_eq_ok_iff_known :
    s.takeMembers set closed seen draft ms = .ok draft' ↔
      closed = true ∧
      (∀ m ∈ ms, m.1 ≠ none ∧ (m.1 ∉ s.fields.map some → m.2.isWhole = true)) ∧
      s.takeMembers set true seen draft (s.known ms) = .ok draft' := by
  induction ms generalizing seen draft with
  | nil => cases closed <;> simp [takeMembers, known]
  | cons m ms ih =>
    rw [takeMembers_cons_eq_ok_iff, List.forall_mem_cons]
    by_cases field : m.1 ∈ s.fields.map some
    · have keep : s.known (m :: ms) = m :: s.known ms :=
        List.filter_cons_of_pos (by simpa using field)
      rw [keep, takeMembers_cons_eq_ok_iff]
      have named : m.1 ≠ none := by
        obtain ⟨name, _, same⟩ := List.mem_map.mp field
        rw [← same]
        exact Option.some_ne_none name
      constructor
      · rintro ⟨seen₁, draft₁, takes, rest⟩
        obtain ⟨closed, others, rest⟩ := ih.mp rest
        exact ⟨closed, ⟨⟨named, fun other => absurd field other⟩, others⟩, _, _, takes, rest⟩
      · rintro ⟨closed, ⟨_, others⟩, seen₁, draft₁, takes, rest⟩
        exact ⟨_, _, takes, ih.mpr ⟨closed, others, rest⟩⟩
    · have skip : s.known (m :: ms) = s.known ms := List.filter_cons_of_neg (by simpa using field)
      rw [skip]
      constructor
      · rintro ⟨seen₁, draft₁, takes, rest⟩
        obtain ⟨closed, others, rest⟩ := ih.mp rest
        cases takes with
        | field known new taken =>
          obtain ⟨inside, same, _⟩ := List.idxOf?_eq_some_iff.mp known
          exact absurd (List.mem_map_of_mem (same ▸ List.getElem_mem inside)) field
        | other unknown whole =>
          exact ⟨closed, ⟨⟨Option.some_ne_none _, fun _ => whole⟩, others⟩, rest⟩
      · rintro ⟨closed, ⟨⟨named, whole⟩, others⟩, rest⟩
        obtain ⟨_ | name, t⟩ := m
        · exact absurd rfl named
        have unknown : s.fields.idxOf? name = none :=
          List.idxOf?_eq_none_iff.mpr fun mem => field (List.mem_map_of_mem mem)
        exact ⟨_, _, .other unknown (whole field), ih.mpr ⟨closed, others, rest⟩⟩

end Shape

/-! ### Texts -/

lemma decodeText_eq_ok_iff {d : Decoder α} {text : String} {a : α} : decodeText d text = .ok a ↔
    (Document.ofText text).ended = true ∧ d (Document.ofText text).tree = .ok a := by
  rw [decodeText]
  cases d (Document.ofText text).tree with
  | error p => simp
  | ok b => cases (Document.ofText text).ended <;> simp

end Quorum.Json
