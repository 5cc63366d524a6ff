import Mathlib.Tactic.IntervalCases
import Quorum.Proofs.Address.Reading
import Quorum.Proofs.Json.Acceptance
import Quorum.Proofs.OwnerSet.Validation

/-!
# Which texts are owner sets

From JSON just those owner sets are read whose owners, once they were read from their texts, make up
one. Texts of one normal form are texts of one owner, so that no two of them may be there.
-/

namespace Quorum

open Json (Tree)

lemma Address.decode_eq_ok_iff {t : Tree} {a : Address} :
    Address.decode t = .ok a ↔ ∃ s, t = .text (some s) ∧ Address.parse s = .ok a :=
  Json.parsedAs_eq_ok_iff

namespace OwnerSet

variable {owners : List Address} {required : UInt64} {set : OwnerSet} {t : Tree}
  {texts : List String}

/-! ### Forms -/

/-- An array of texts. -/
def arrayOf (texts : List String) : Tree :=
  .array (texts.map fun s => .text (some s)) true

/-- A value that tells texts and a threshold: an object that has one member of either name, and
maybe others, or an array of the two. -/
inductive Tells (texts : List String) (required : UInt64) : Tree → Prop
  | object {members : List (Option String × Tree)} {n : Json.Number}
      (named : ∀ m ∈ members, m.1 ≠ none) (whole : (Tree.object members true).isWhole = true)
      (fields : (members.filter fun m => m.1 ∈ [some "owners", some "required"]).Perm
        [(some "owners", arrayOf texts), (some "required", .number n)])
      (number : n.quantity? = some (.natural required.toNat)) :
      Tells texts required (.object members true)
  | array {n : Json.Number} (number : n.quantity? = some (.natural required.toNat)) :
      Tells texts required (.array [arrayOf texts, .number n] true)

lemma isWhole_arrayOf : (arrayOf texts).isWhole = true := by
  rw [arrayOf, Tree.isWhole, Bool.and_true]
  induction texts with
  | nil => rfl
  | cons s texts ih =>
    rw [List.map_cons, Tree.allWhole, ih]
    rfl

lemma isWhole_object_iff {members : List (Option String × Tree)} :
    (Tree.object members true).isWhole = true ↔ ∀ m ∈ members, m.2.isWhole = true := by
  rw [Tree.isWhole, Bool.and_true, Tree.membersWhole_iff]

/-- The texts of addresses are read one by one. -/
lemma list_decode_eq_ok_iff : Json.list Address.decode t = .ok owners ↔
    ∃ texts, t = arrayOf texts ∧
      List.Forall₂ (fun s a => Address.parse s = .ok a) texts owners := by
  rw [Json.list_eq_ok_iff]
  constructor
  · rintro ⟨ts, rfl, all⟩
    induction all with
    | nil => exact ⟨[], rfl, .nil⟩
    | cons item _ ih =>
      obtain ⟨s, rfl, parsed⟩ := Address.decode_eq_ok_iff.mp item
      obtain ⟨texts, same, all⟩ := ih
      simp only [arrayOf, Tree.array.injEq, and_true] at same
      exact ⟨s :: texts, by simp [arrayOf, same], .cons parsed all⟩
  · rintro ⟨texts, rfl, all⟩
    refine ⟨_, rfl, List.forall₂_map_left_iff.mpr (all.imp ?_)⟩
    exact fun s a parsed => Address.decode_eq_ok_iff.mpr ⟨s, rfl, parsed⟩

/-! ### Fields -/

lemma independent : shape.Independent Draft.set := by
  intro i j (hi : i < 2) (hj : j < 2) apart t u draft next draft' first second
  interval_cases i <;> interval_cases j <;> first
    | exact absurd rfl apart
    | obtain ⟨x, read, rfl⟩ := Json.exists_of_map_eq_ok first
      obtain ⟨y, read', rfl⟩ := Json.exists_of_map_eq_ok second
      simp [Draft.set, read, read']

lemma finish_eq_ok_iff {draft : Draft} : draft.finish = .ok set ↔
    ∃ owners required, draft = ⟨some owners, some required⟩ ∧
      create owners required = .ok set := by
  obtain ⟨owners?, required?⟩ := draft
  cases owners? with
  | none => simp [Draft.finish, Json.need, Json.refuse, bind, Except.bind]
  | some owners =>
    cases required? with
    | none => simp [Draft.finish, Json.need, Json.refuse, bind, Except.bind]
    | some required =>
      cases made : create owners required <;>
        simp [Draft.finish, Json.need, Json.refuse, made, bind, Except.bind]

/-- The owners and the threshold, in this order. -/
lemma takeMembers_pair_iff {o r : Tree} :
    shape.takeMembers Draft.set true [] {} [(some "owners", o), (some "required", r)] =
        .ok ⟨some owners, some required⟩ ↔
      Json.list Address.decode o = .ok owners ∧ Json.size r = .ok required := by
  have first : shape.fields.idxOf? "owners" = some 0 := rfl
  have second : shape.fields.idxOf? "required" = some 1 := rfl
  cases owned : Json.list Address.decode o <;> cases needed : Json.size r <;>
    simp [Json.Shape.takeMembers, first, second, Draft.set, owned, needed, Except.map]

/-- One field is not enough. -/
lemma not_takeMembers_one {m : Option String × Tree}
    (field : m.1 = some "owners" ∨ m.1 = some "required") :
    shape.takeMembers Draft.set true [] {} [m] ≠ .ok ⟨some owners, some required⟩ := by
  have first : shape.fields.idxOf? "owners" = some 0 := rfl
  have second : shape.fields.idxOf? "required" = some 1 := rfl
  obtain ⟨name, t⟩ := m
  rcases field with rfl | rfl
  · cases owned : Json.list Address.decode t <;>
      simp [Json.Shape.takeMembers, first, Draft.set, owned, Except.map]
  · cases needed : Json.size t <;>
      simp [Json.Shape.takeMembers, second, Draft.set, needed, Except.map]

/-- No field may be there twice. -/
lemma apart_of_takeMembers {m m' : Option String × Tree} {rest : List (Option String × Tree)}
    {draft : Draft} (field : m.1 ∈ shape.fields.map some)
    (taken : shape.takeMembers Draft.set true [] {} (m :: m' :: rest) = .ok draft) :
    m.1 ≠ m'.1 := by
  intro same
  obtain ⟨_, _, takes, taken⟩ := Json.Shape.takeMembers_cons_eq_ok_iff.mp taken
  obtain ⟨_, _, takes', _⟩ := Json.Shape.takeMembers_cons_eq_ok_iff.mp taken
  cases takes with
  | other unknown =>
    obtain ⟨name, mem, same⟩ := List.mem_map.mp field
    cases same
    exact List.idxOf?_eq_none_iff.mp unknown mem
  | field known =>
    obtain ⟨name', u⟩ := m'
    cases same
    cases takes' with
    | field known' new =>
      rw [known] at known'
      cases known'
      exact new List.mem_cons_self
    | other unknown =>
      rw [known] at unknown
      cases unknown

/-- As there are two fields, no third member is one. -/
lemma length_le_of_takeMembers {fs : List (Option String × Tree)} {draft : Draft}
    (fields : ∀ f ∈ fs, f.1 ∈ shape.fields.map some)
    (taken : shape.takeMembers Draft.set true [] {} fs = .ok draft) : fs.length ≤ 2 := by
  rcases fs with _ | ⟨f, _ | ⟨g, _ | ⟨h, rest⟩⟩⟩
  · simp
  · simp
  · simp
  · exfalso
    obtain ⟨_, _, takes, taken⟩ := Json.Shape.takeMembers_cons_eq_ok_iff.mp taken
    obtain ⟨i, (hi : i < 2), _, rfl⟩ := takes.of_known (fields f (by simp))
    obtain ⟨_, _, takes, taken⟩ := Json.Shape.takeMembers_cons_eq_ok_iff.mp taken
    obtain ⟨j, (hj : j < 2), new, rfl⟩ := takes.of_known (fields g (by simp))
    obtain ⟨_, _, takes, _⟩ := Json.Shape.takeMembers_cons_eq_ok_iff.mp taken
    obtain ⟨k, (hk : k < 2), new', _⟩ := takes.of_known (fields h (by simp))
    simp only [List.mem_cons, List.not_mem_nil] at new new'
    omega

/-- Both fields are there once, in either order. -/
lemma takeMembers_known_iff {fs : List (Option String × Tree)}
    (fields : ∀ f ∈ fs, f.1 = some "owners" ∨ f.1 = some "required") :
    shape.takeMembers Draft.set true [] {} fs = .ok ⟨some owners, some required⟩ ↔
      ∃ o r, fs.Perm [(some "owners", o), (some "required", r)] ∧
        Json.list Address.decode o = .ok owners ∧ Json.size r = .ok required := by
  have known : ∀ f ∈ fs, f.1 ∈ shape.fields.map some := by
    intro f mem
    rcases fields f mem with name | name <;> rw [name] <;> decide
  constructor
  · intro taken
    have few := length_le_of_takeMembers known taken
    rcases fs with _ | ⟨⟨name, t⟩, _ | ⟨⟨name', u⟩, _ | ⟨h, rest⟩⟩⟩
    · simp [Json.Shape.takeMembers] at taken
    · exact absurd taken (not_takeMembers_one (fields (name, t) (by simp)))
    · have apart : name ≠ name' := apart_of_takeMembers (known (name, t) (by simp)) taken
      have first : name = some "owners" ∨ name = some "required" := fields (name, t) (by simp)
      have second : name' = some "owners" ∨ name' = some "required" := fields (name', u) (by simp)
      rcases first with rfl | rfl <;> rcases second with rfl | rfl
      · exact absurd rfl apart
      · exact ⟨t, u, .refl _, takeMembers_pair_iff.mp taken⟩
      · have taken := Json.Shape.takeMembers_perm independent (.swap _ _ []) taken
        exact ⟨u, t, .swap _ _ [], takeMembers_pair_iff.mp taken⟩
      · exact absurd rfl apart
    · simp at few
  · rintro ⟨o, r, order, read⟩
    exact Json.Shape.takeMembers_perm independent order.symm (takeMembers_pair_iff.mpr read)

/-- The members that count are those with the names of the fields. -/
lemma mem_known_iff {members : List (Option String × Tree)} {m : Option String × Tree} :
    m ∈ shape.known members ↔ m ∈ members ∧ (m.1 = some "owners" ∨ m.1 = some "required") := by
  simp [Json.Shape.known, shape]

/-- Members that tell texts and a threshold are taken in as the owners of these texts. -/
lemma takeMembers_iff {members : List (Option String × Tree)} {closed : Bool} :
    shape.takeMembers Draft.set closed [] {} members = .ok ⟨some owners, some required⟩ ↔
      ∃ texts, Tells texts required (.object members closed) ∧
        List.Forall₂ (fun s a => Address.parse s = .ok a) texts owners := by
  have names : ∀ f ∈ shape.known members, f.1 = some "owners" ∨ f.1 = some "required" :=
    fun f mem => (mem_known_iff.mp mem).2
  rw [Json.Shape.takeMembers_eq_ok_iff_known, takeMembers_known_iff names]
  constructor
  · rintro ⟨rfl, others, o, r, fields, owned, needed⟩
    obtain ⟨texts, rfl, parsed⟩ := list_decode_eq_ok_iff.mp owned
    obtain ⟨n, rfl, number⟩ := Json.wordAs_eq_ok_iff.mp needed
    refine ⟨texts, .object (fun m mem => (others m mem).1) ?_ fields number, parsed⟩
    refine isWhole_object_iff.mpr fun m mem => ?_
    by_cases field : m.1 ∈ shape.fields.map some
    · have known : m ∈ shape.known members := mem_known_iff.mpr ⟨mem, by simpa [shape] using field⟩
      have either : m = (some "owners", arrayOf texts) ∨ m = (some "required", .number n) := by
        simpa using fields.mem_iff.mp known
      rcases either with rfl | rfl
      · exact isWhole_arrayOf
      · rfl
    · exact (others m mem).2 field
  · rintro ⟨texts, told, parsed⟩
    cases told with
    | object named whole fields number =>
      refine ⟨rfl, fun m mem => ⟨named m mem, fun _ => isWhole_object_iff.mp whole m mem⟩,
        _, _, fields, ?_, ?_⟩
      · exact list_decode_eq_ok_iff.mpr ⟨texts, rfl, parsed⟩
      · exact Json.wordAs_eq_ok_iff.mpr ⟨_, rfl, number⟩

/-- Items that tell texts and a threshold are taken in as the owners of these texts. -/
lemma takeItems_iff {items : List Tree} {closed : Bool} :
    shape.takeItems Draft.set closed 0 {} items = .ok ⟨some owners, some required⟩ ↔
      ∃ texts, Tells texts required (.array items closed) ∧
        List.Forall₂ (fun s a => Address.parse s = .ok a) texts owners := by
  constructor
  · intro taken
    match items with
    | [] => cases closed <;> simp [Json.Shape.takeItems, shape, Json.refuse] at taken
    | [o] =>
      cases closed <;> cases owned : Json.list Address.decode o <;>
        simp [Json.Shape.takeItems, shape, Json.refuse, Draft.set, owned, Except.map] at taken
    | [o, r] =>
      cases closed <;> cases owned : Json.list Address.decode o <;>
        cases needed : Json.size r <;>
        simp [Json.Shape.takeItems, shape, Draft.set, owned, needed, Except.map] at taken
      obtain ⟨rfl, rfl⟩ := taken
      obtain ⟨texts, rfl, parsed⟩ := list_decode_eq_ok_iff.mp owned
      obtain ⟨n, rfl, number⟩ := Json.wordAs_eq_ok_iff.mp needed
      exact ⟨texts, .array number, parsed⟩
    | o :: r :: other :: rest =>
      cases owned : Json.list Address.decode o <;> cases needed : Json.size r <;>
        simp [Json.Shape.takeItems, shape, Draft.set, owned, needed, Except.map] at taken
  · rintro ⟨texts, told, parsed⟩
    cases told with
    | @array n number =>
      have owned : Json.list Address.decode (arrayOf texts) = .ok owners :=
        list_decode_eq_ok_iff.mpr ⟨texts, rfl, parsed⟩
      have needed : Json.size (.number n) = .ok required :=
        Json.wordAs_eq_ok_iff.mpr ⟨n, rfl, number⟩
      simp [Json.Shape.takeItems, shape, Draft.set, owned, needed]

/-! ### Owner sets -/

/-- An owner set is read exactly if texts and a threshold are told, the texts are read as addresses,
and these make up the owner set. -/
lemma decode_eq_ok_iff : decode t = .ok set ↔
    ∃ texts owners required, Tells texts required t ∧
      List.Forall₂ (fun s a => Address.parse s = .ok a) texts owners ∧
      create owners required = .ok set := by
  constructor
  · intro read
    rw [decode] at read
    unfold Json.record at read
    split at read
    · obtain ⟨draft, taken, finished⟩ := Json.exists_of_bind_eq_ok read
      obtain ⟨owners, required, rfl, made⟩ := finish_eq_ok_iff.mp finished
      obtain ⟨texts, told, parsed⟩ := takeMembers_iff.mp taken
      exact ⟨texts, owners, required, told, parsed, made⟩
    · obtain ⟨draft, taken, finished⟩ := Json.exists_of_bind_eq_ok read
      obtain ⟨owners, required, rfl, made⟩ := finish_eq_ok_iff.mp finished
      obtain ⟨texts, told, parsed⟩ := takeItems_iff.mp taken
      exact ⟨texts, owners, required, told, parsed, made⟩
    · exact absurd read Json.mismatch_ne_ok
  · rintro ⟨texts, owners, required, told, parsed, made⟩
    have finished : Draft.finish ⟨some owners, some required⟩ = .ok set :=
      finish_eq_ok_iff.mpr ⟨owners, required, rfl, made⟩
    cases told with
    | object named whole fields number =>
      have told : Tells texts required _ := .object named whole fields number
      rw [decode, Json.record, takeMembers_iff.mpr ⟨texts, told, parsed⟩]
      exact finished
    | array number =>
      rw [decode, Json.record, takeItems_iff.mpr ⟨texts, .array number, parsed⟩]
      exact finished

/-- Texts with normal forms are those that are read as addresses. -/
lemma forall₂_normal_iff {forms : List String} : List.Forall₂ Address.Normal texts forms ↔
    ∃ owners, forms = owners.map Address.render ∧
      List.Forall₂ (fun s a => Address.parse s = .ok a) texts owners := by
  constructor
  · intro all
    induction all with
    | nil => exact ⟨[], rfl, .nil⟩
    | cons normal _ ih =>
      have ⟨_, _, spelled⟩ := normal
      obtain ⟨a, rfl⟩ := spelled.exists_render_eq
      obtain ⟨owners, rfl, parsed⟩ := ih
      exact ⟨a :: owners, rfl, .cons (Address.parse_eq_ok_iff.mpr normal) parsed⟩
  · rintro ⟨owners, rfl, parsed⟩
    exact List.forall₂_map_right_iff.mpr (parsed.imp fun _ _ => Address.parse_eq_ok_iff.mp)

/-- An owner set is read exactly if all texts that are told have normal forms, of which no two are
the same, and the threshold fits their number. -/
lemma exists_decode_eq_ok_iff : (∃ set, decode t = .ok set) ↔
    ∃ texts forms required, Tells texts required t ∧ List.Forall₂ Address.Normal texts forms ∧
      forms.Nodup ∧ 1 ≤ required.toNat ∧ required.toNat ≤ forms.length := by
  have inj : Function.Injective Address.render := fun _ _ => Address.render_inj
  constructor
  · rintro ⟨set, read⟩
    obtain ⟨texts, owners, required, told, parsed, made⟩ := decode_eq_ok_iff.mp read
    obtain ⟨⟨_, distinct, least, most⟩, _⟩ := create_eq_ok_iff.mp made
    refine ⟨texts, _, required, told, forall₂_normal_iff.mpr ⟨owners, rfl, parsed⟩,
      distinct.map inj, least, ?_⟩
    rwa [List.length_map]
  · rintro ⟨texts, forms, required, told, normal, distinct, least, most⟩
    obtain ⟨owners, rfl, parsed⟩ := forall₂_normal_iff.mp normal
    rw [List.length_map] at most
    have nodup := List.Nodup.of_map _ distinct
    let set : OwnerSet := ⟨owners, required, nodup, least, most⟩
    exact ⟨set, decode_eq_ok_iff.mpr ⟨texts, owners, required, told, parsed, set.create_eq_ok⟩⟩

/-- Owners and a threshold make up an owner set, which keeps them as they are, exactly if they fit;
otherwise the first thing that is wrong is said. From JSON exactly those owner sets are read that
are made of the addresses which its texts are read as, so that two texts of one normal form are a
repeated owner. Every owner set is one that can be made. -/
theorem validation_exact (owners : List Address) (required : UInt64) (t : Tree) (text : String)
    (set : OwnerSet) :
    (create owners required = .ok set ↔
      Fits owners required ∧ set.owners = owners ∧ set.required = required) ∧
    (∀ e, create owners required = .error e ↔ Refused owners required e) ∧
    (decode t = .ok set ↔ ∃ texts owners required, Tells texts required t ∧
      List.Forall₂ (fun s a => Address.parse s = .ok a) texts owners ∧
      create owners required = .ok set) ∧
    ((∃ set, Json.decodeText decode text = .ok set) ↔
      (Json.Document.ofText text).ended = true ∧
      ∃ texts forms required, Tells texts required (Json.Document.ofText text).tree ∧
        List.Forall₂ Address.Normal texts forms ∧ forms.Nodup ∧
        1 ≤ required.toNat ∧ required.toNat ≤ forms.length) ∧
    create set.owners set.required = .ok set := by
  refine ⟨create_eq_ok_iff, fun _ => create_eq_error_iff, decode_eq_ok_iff, ?_, set.create_eq_ok⟩
  simp only [Json.decodeText_eq_ok_iff, exists_and_left, ← exists_decode_eq_ok_iff]

end OwnerSet

end Quorum
