import Quorum.Proofs.Json.Decoding

/-!
# The order of members

A record is read from the members of an object one after the other. If it makes no difference which
of two fields is set first, then it makes none in which order the members stand.
-/

namespace Quorum.Json

variable {α δ : Type} {s : Shape} {set : Nat → Tree → δ → Except Problem δ} {closed : Bool}
  {seen seen' seen₁ seen₂ : List Nat} {draft draft' draft₁ draft₂ : δ}
  {m m' : Option String × Tree} {ms ms' : List (Option String × Tree)}

namespace Shape

/-- Of two fields the second can be set before the first as well. -/
def Independent (s : Shape) (set : Nat → Tree → δ → Except Problem δ) : Prop :=
  ∀ ⦃i j⦄, i < s.fields.length → j < s.fields.length → i ≠ j → ∀ ⦃t u draft next draft'⦄,
    set i t draft = .ok next → set j u next = .ok draft' →
      ∃ next', set j u draft = .ok next' ∧ set i t next' = .ok draft'

/-! ### One member -/

/-- One member is taken in: as a field that was not there yet, or as something that is ignored. -/
inductive Takes (s : Shape) (set : Nat → Tree → δ → Except Problem δ) :
    List Nat → δ → Option String × Tree → List Nat → δ → Prop
  | field {seen : List Nat} {draft draft' : δ} {name : String} {t : Tree} {i : Nat}
      (known : s.fields.idxOf? name = some i) (new : i ∉ seen)
      (taken : set i t draft = .ok draft') : Takes s set seen draft (some name, t) (i :: seen) draft'
  | other {seen : List Nat} {draft : δ} {name : String} {t : Tree}
      (unknown : s.fields.idxOf? name = none) (whole : t.isWhole = true) :
      Takes s set seen draft (some name, t) seen draft

lemma takeMembers_cons_eq_ok_iff :
    s.takeMembers set closed seen draft (m :: ms) = .ok draft' ↔
      ∃ seen₁ draft₁, s.Takes set seen draft m seen₁ draft₁ ∧
        s.takeMembers set closed seen₁ draft₁ ms = .ok draft' := by
  obtain ⟨_ | name, t⟩ := m
  · refine ⟨nofun, ?_⟩
    rintro ⟨_, _, takes, _⟩
    cases takes
  rw [takeMembers]
  constructor
  · intro h
    split at h
    · rename_i unknown
      split at h
      · rename_i whole
        exact ⟨_, _, .other unknown whole, h⟩
      · cases h
    · rename_i i known
      split at h
      · cases h
      · rename_i new
        split at h
        · cases h
        · rename_i taken
          exact ⟨_, _, .field known new taken, h⟩
  · rintro ⟨_, _, takes, rest⟩
    cases takes with
    | field known new taken => simpa [known, new, taken] using rest
    | other unknown whole => simpa [unknown, whole] using rest

/-- Of the fields that were there already it matters which they are, and not in which order. -/
lemma Takes.congr (same : ∀ i, i ∈ seen ↔ i ∈ seen') (h : s.Takes set seen draft m seen₁ draft₁) :
    ∃ seen₁', s.Takes set seen' draft m seen₁' draft₁ ∧ ∀ i, i ∈ seen₁ ↔ i ∈ seen₁' := by
  cases h with
  | field known new taken =>
    refine ⟨_, .field known (fun mem => new ((same _).mpr mem)) taken, fun i => ?_⟩
    rw [List.mem_cons, List.mem_cons, same]
  | other unknown whole => exact ⟨_, .other unknown whole, same⟩

private lemma lt_of_idxOf? {name : String} {i : Nat} (known : s.fields.idxOf? name = some i) :
    i < s.fields.length := by
  obtain ⟨inside, _⟩ := List.idxOf?_eq_some_iff.mp known
  exact inside

/-- Two members can be taken in in either order. -/
lemma Takes.swap (free : s.Independent set) (h : s.Takes set seen draft m seen₁ draft₁)
    (h' : s.Takes set seen₁ draft₁ m' seen₂ draft₂) :
    ∃ seen₁' draft₁' seen₂', s.Takes set seen draft m' seen₁' draft₁' ∧
      s.Takes set seen₁' draft₁' m seen₂' draft₂ ∧ ∀ i, i ∈ seen₂ ↔ i ∈ seen₂' := by
  cases h with
  | @field _ _ _ i known new taken =>
    cases h' with
    | @field _ _ _ j known' new' taken' =>
      rw [List.mem_cons, not_or] at new'
      obtain ⟨next, first, second⟩ :=
        free (lt_of_idxOf? known) (lt_of_idxOf? known') (Ne.symm new'.1) taken taken'
      have new : i ∉ j :: seen := by
        rw [List.mem_cons, not_or]
        exact ⟨Ne.symm new'.1, new⟩
      refine ⟨_, next, _, .field known' new'.2 first, .field known new second, fun k => ?_⟩
      simp only [List.mem_cons]
      exact or_left_comm
    | other unknown whole =>
      exact ⟨_, _, _, .other unknown whole, .field known new taken, fun _ => Iff.rfl⟩
  | other unknown whole =>
    cases h' with
    | field known new taken =>
      exact ⟨_, _, _, .field known new taken, .other unknown whole, fun _ => Iff.rfl⟩
    | other unknown' whole' =>
      exact ⟨_, _, _, .other unknown' whole', .other unknown whole, fun _ => Iff.rfl⟩

/-! ### All members -/

lemma takeMembers_congr (same : ∀ i, i ∈ seen ↔ i ∈ seen')
    (h : s.takeMembers set closed seen draft ms = .ok draft') :
    s.takeMembers set closed seen' draft ms = .ok draft' := by
  induction ms generalizing seen seen' draft with
  | nil => exact h
  | cons m ms ih =>
    obtain ⟨_, _, takes, rest⟩ := takeMembers_cons_eq_ok_iff.mp h
    obtain ⟨_, takes, same⟩ := takes.congr same
    exact takeMembers_cons_eq_ok_iff.mpr ⟨_, _, takes, ih same rest⟩

/-- Members in another order make up the same draft. -/
lemma takeMembers_perm (free : s.Independent set) (order : ms.Perm ms')
    (h : s.takeMembers set closed seen draft ms = .ok draft') :
    s.takeMembers set closed seen draft ms' = .ok draft' := by
  induction order generalizing seen draft with
  | nil => exact h
  | cons m _ ih =>
    obtain ⟨_, _, takes, rest⟩ := takeMembers_cons_eq_ok_iff.mp h
    exact takeMembers_cons_eq_ok_iff.mpr ⟨_, _, takes, ih rest⟩
  | swap m m' ms =>
    obtain ⟨_, _, takes, rest⟩ := takeMembers_cons_eq_ok_iff.mp h
    obtain ⟨_, _, takes', rest⟩ := takeMembers_cons_eq_ok_iff.mp rest
    obtain ⟨_, _, _, first, second, same⟩ := takes.swap free takes'
    exact takeMembers_cons_eq_ok_iff.mpr ⟨_, _, first,
      takeMembers_cons_eq_ok_iff.mpr ⟨_, _, second, takeMembers_congr same rest⟩⟩
  | trans _ _ ih ih' => exact ih' (ih h)

end Shape

/-- A record whose fields are independent is read from its members in any order, as the same value. -/
theorem record_perm {start : δ} {finish : δ → Except Problem α} {a : α}
    (free : s.Independent set) {ms ms' : List (String × Value)} (order : ms.Perm ms') :
    record s start set finish (Value.object ms).tree = .ok a ↔
      record s start set finish (Value.object ms').tree = .ok a := by
  have only {ms ms' : List (String × Value)} (order : ms.Perm ms')
      (h : record s start set finish (Value.object ms).tree = .ok a) :
      record s start set finish (Value.object ms').tree = .ok a := by
    rw [Value.tree, Value.memberTrees_eq_map] at h ⊢
    obtain ⟨draft, taken, done⟩ := exists_of_bind_eq_ok h
    rw [record, Shape.takeMembers_perm free (order.map _) taken]
    exact done
  exact ⟨only order, only order.symm⟩

end Quorum.Json
