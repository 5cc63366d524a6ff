import Mathlib.Tactic.Lemma
import Quorum.Json.Decode
import Quorum.Proofs.Json.Writing

/-!
# Decoding of written values

What decoders make of the trees of written values. A record is decoded from an object that has just
its fields, in their order, if they can be taken in one after the other.
-/

namespace Quorum.Json

variable {α β δ κ : Type}

@[simp] lemma map_ok (f : α → β) (a : α) :
    Except.map f (.ok a : Except Problem α) = .ok (f a) := rfl

@[simp] lemma ok_bind (a : α) (f : α → Except Problem β) : Except.ok a >>= f = f a := rfl

lemma Value.itemTrees_eq_map (vs : List Value) : itemTrees vs = vs.map tree := by
  induction vs with
  | nil => rfl
  | cons v vs ih => rw [itemTrees, ih, List.map_cons]

lemma Value.memberTrees_eq_map (ms : List (String × Value)) :
    memberTrees ms = ms.map fun m => (some m.1, m.2.tree) := by
  induction ms with
  | nil => rfl
  | cons m ms ih => rw [memberTrees, ih, List.map_cons]

/-! ### Values without parts -/

@[simp] lemma text_tree (s : String) : text (Value.text s).tree = .ok s := rfl

@[simp] lemma flag_tree (b : Bool) : flag (Value.flag b).tree = .ok b := by
  cases b <;> rfl

lemma wordAs_tree (wanted : String) {n : Nat} (fits : n < UInt64.size) :
    wordAs wanted (Value.natural n).tree = .ok (UInt64.ofNat n) := by
  simp [Value.tree, wordAs, Number.quantity?, fits]

lemma wordAs_toNat (wanted : String) (n : UInt64) :
    wordAs wanted (Value.natural n.toNat).tree = .ok n := by
  rw [wordAs_tree wanted n.toNat_lt, UInt64.ofNat_toNat]

lemma amount_tree (a : Amount) : amount (Value.natural a.units).tree = .ok a := by
  simp [Value.tree, amount, Amount.ofNat?, a.lt_bound]

lemma parsed_tree {ε : Type} (wanted : String) {parse : String → Except ε α}
    {message : ε → String} {s : String} {a : α} (h : parse s = .ok a) :
    parsedAs wanted parse message (Value.text s).tree = .ok a := by
  simp [Value.tree, parsedAs, textAs, h]

/-! ### Values with parts -/

lemma optional_tree {d : Decoder α} {f : α → Value} {a? : Option α}
    (there : ∀ a, (f a).tree ≠ .null) (h : ∀ a ∈ a?, d (f a).tree = .ok a) :
    optional d (Value.optional f a?).tree = .ok a? := by
  cases a? with
  | none => rfl
  | some a =>
    have read := h a rfl
    rw [Value.optional]
    unfold optional
    split
    · rename_i null
      exact absurd null (there a)
    · rw [read]
      rfl

lemma itemsFrom_map {d : Decoder α} {f : α → Value} {xs : List α}
    (h : ∀ x ∈ xs, d (f x).tree = .ok x) (index : Nat) :
    itemsFrom d true index ((xs.map f).map Value.tree) = .ok xs := by
  induction xs generalizing index with
  | nil => rfl
  | cons x xs ih =>
    rw [List.forall_mem_cons] at h
    rw [List.map_cons, List.map_cons, itemsFrom, h.1]
    show (itemsFrom d true (index + 1) _).map (x :: ·) = _
    rw [ih h.2]
    rfl

lemma list_tree {d : Decoder α} {f : α → Value} {xs : List α}
    (h : ∀ x ∈ xs, d (f x).tree = .ok x) :
    list d (Value.array (xs.map f)).tree = .ok xs := by
  rw [Value.tree, Value.itemTrees_eq_map]
  exact itemsFrom_map h 0

lemma entries_tree {key : String → Except Problem κ} {name : κ → String} {d : Decoder α}
    {f : α → Value} {es : List (κ × α)} (names : ∀ k, key (name k) = .ok k)
    (h : ∀ e ∈ es, d (f e.2).tree = .ok e.2) :
    entries key d (Value.object (es.map fun e => (name e.1, f e.2))).tree = .ok es := by
  rw [Value.tree, Value.memberTrees_eq_map]
  show entriesFrom key d true _ = _
  induction es with
  | nil => rfl
  | cons e es ih =>
    rw [List.forall_mem_cons] at h
    rw [List.map_cons, List.map_cons, entriesFrom, names, h.1]
    show (entriesFrom key d true _).map ((e.1, e.2) :: ·) = _
    rw [ih h.2]
    rfl

/-! ### Records -/

/-- Takes in the fields of a record one after the other, the first of which has the given number. -/
def fill (set : Nat → Tree → δ → Except Problem δ) (index : Nat) :
    List Tree → δ → Except Problem δ
  | [], draft => .ok draft
  | t :: ts, draft => set index t draft >>= fill set (index + 1) ts

variable {s : Shape} {set : Nat → Tree → δ → Except Problem δ}

private lemma idxOf?_append_cons {before after : List String} {name : String}
    (fresh : name ∉ before) : (before ++ name :: after).idxOf? name = some before.length := by
  have none : before.idxOf? name = none := List.idxOf?_eq_none_iff.mpr fresh
  rw [List.idxOf?] at none ⊢
  rw [List.findIdx?_append, none]
  simp [List.findIdx?_cons]

lemma takeMembers_eq_ok_iff {ms : List (String × Value)} {before : List String}
    (names : before ++ ms.map (·.1) = s.fields) (distinct : s.fields.Nodup) {seen : List Nat}
    (met : ∀ i ∈ seen, i < before.length) (draft : δ) {draft' : δ} :
    s.takeMembers set true seen draft (Value.memberTrees ms) = .ok draft' ↔
      fill set before.length (ms.map (·.2.tree)) draft = .ok draft' := by
  induction ms generalizing before seen draft with
  | nil => exact Iff.rfl
  | cons m ms ih =>
    obtain ⟨name, v⟩ := m
    have fresh : name ∉ before := by
      rw [← names, List.nodup_append] at distinct
      exact fun mem => distinct.2.2 name mem name (by simp) rfl
    have index : s.fields.idxOf? name = some before.length :=
      names ▸ idxOf?_append_cons fresh
    have new : before.length ∉ seen := fun h => Nat.lt_irrefl _ (met _ h)
    rw [Value.memberTrees, Shape.takeMembers, index]
    simp only [if_neg new, List.map_cons, fill]
    cases taken : set before.length v.tree draft with
    | error p => simp [bind, Except.bind]
    | ok next =>
      have later := ih (show (before ++ [name]) ++ _ = _ by simpa using names)
        (show ∀ i ∈ before.length :: seen, i < (before ++ [name]).length by
          simpa using fun i h => Nat.lt_succ_of_lt (met i h)) next
      rw [List.length_append] at later
      exact later

/-- A record is read from its fields in their order exactly if they can be taken in one after the
other and make up a value. -/
theorem record_tree_eq_ok_iff {ms : List (String × Value)} {start : δ}
    {finish : δ → Except Problem α} {a : α} (names : ms.map (·.1) = s.fields)
    (distinct : s.fields.Nodup) :
    record s start set finish (Value.object ms).tree = .ok a ↔
      ∃ draft, fill set 0 (ms.map (·.2.tree)) start = .ok draft ∧ finish draft = .ok a := by
  have taken : ∀ draft, s.takeMembers set true [] start (Value.memberTrees ms) = .ok draft ↔
      fill set 0 (ms.map (·.2.tree)) start = .ok draft :=
    fun draft => takeMembers_eq_ok_iff (show [] ++ _ = _ from names) distinct (by simp) start
  rw [Value.tree, record]
  constructor
  · intro h
    obtain ⟨draft, read, done⟩ := exists_of_bind_eq_ok h
    exact ⟨draft, (taken draft).mp read, done⟩
  · rintro ⟨draft, read, done⟩
    rw [(taken draft).mpr read]
    exact done

/-- A value under the name of one of several alternatives is read as that alternative. -/
lemma alternative_tree {names : List String} {content : String → Decoder α} {name : String}
    {v : Value} {a : α} (known : name ∈ names) (h : content name v.tree = .ok a) :
    alternative names content (Value.object [(name, v)]).tree = .ok a := by
  simp [Value.tree, Value.memberTrees, alternative, known, h]

/-! ### What was read -/

section

variable {p : δ → Prop} {seen : List Nat} {closed : Bool} {index : Nat} {start draft draft' : δ}
  {finish : δ → Except Problem α}

private lemma of_takeMembers
    (step : ∀ {i t draft draft'}, set i t draft = .ok draft' → p draft → p draft')
    {ms : List (Option String × Tree)} (kept : p draft)
    (taken : s.takeMembers set closed seen draft ms = .ok draft') : p draft' := by
  induction ms generalizing seen draft with
  | nil =>
    rw [Shape.takeMembers] at taken
    split at taken
    · cases taken
      exact kept
    · cases taken
  | cons m ms ih =>
    obtain ⟨_ | name, t⟩ := m
    · cases taken
    rw [Shape.takeMembers] at taken
    split at taken
    · split at taken
      · exact ih kept taken
      · cases taken
    · split at taken
      · cases taken
      · split at taken
        · cases taken
        · rename_i set_ok
          exact ih (step set_ok kept) taken

private lemma of_takeItems
    (step : ∀ {i t draft draft'}, set i t draft = .ok draft' → p draft → p draft')
    {ts : List Tree} (kept : p draft)
    (taken : s.takeItems set closed index draft ts = .ok draft') : p draft' := by
  induction ts generalizing index draft with
  | nil =>
    rw [Shape.takeItems] at taken
    split at taken
    · cases taken
    · split at taken
      · cases taken
      · cases taken
        exact kept
  | cons t ts ih =>
    rw [Shape.takeItems] at taken
    split at taken
    · cases taken
    · split at taken
      · cases taken
      · rename_i set_ok
        exact ih (step set_ok kept) taken

/-- What taking in a field keeps true of a draft is true of the draft of a record that was read. -/
theorem exists_draft_of_record {t : Tree} {a : α} (first : p start)
    (step : ∀ {i t draft draft'}, set i t draft = .ok draft' → p draft → p draft')
    (h : record s start set finish t = .ok a) : ∃ draft, p draft ∧ finish draft = .ok a := by
  cases t with
  | object ms closed =>
    obtain ⟨draft, taken, done⟩ := exists_of_bind_eq_ok h
    exact ⟨draft, of_takeMembers step first taken, done⟩
  | array ts closed =>
    obtain ⟨draft, taken, done⟩ := exists_of_bind_eq_ok h
    exact ⟨draft, of_takeItems step first taken, done⟩
  | _ =>
    simp only [record, mismatch] at h
    split at h <;> cases h

end

lemma exists_of_map_eq_ok {f : α → β} {a? : Except Problem α} {b : β} (h : a?.map f = .ok b) :
    ∃ a, a? = .ok a ∧ f a = b := by
  cases a? with
  | error p => cases h
  | ok a => exact ⟨a, rfl, Except.ok.inj h⟩

lemma mem_of_need {name : String} {a? : Option α} {a : α} (h : need name a? = .ok a) : a ∈ a? := by
  cases a? with
  | none => cases h
  | some b => cases h; rfl

/-- Every item of a list that was read was read itself. -/
lemma exists_of_mem_list {d : Decoder α} {t : Tree} {xs : List α} (h : list d t = .ok xs) :
    ∀ x ∈ xs, ∃ t, d t = .ok x := by
  have go (closed : Bool) (ts : List Tree) : ∀ (index : Nat) {xs : List α},
      itemsFrom d closed index ts = .ok xs → ∀ x ∈ xs, ∃ t, d t = .ok x := by
    induction ts with
    | nil =>
      intro index xs read
      rw [itemsFrom] at read
      split at read
      · cases read
        simp
      · cases read
    | cons t ts ih =>
      intro index xs read
      rw [itemsFrom] at read
      split at read
      · cases read
      · rename_i a item
        obtain ⟨xs, rest, rfl⟩ := exists_of_map_eq_ok read
        rw [List.forall_mem_cons]
        exact ⟨⟨t, item⟩, ih (index + 1) rest⟩
  cases t with
  | array items closed => exact go closed items 0 h
  | _ =>
    simp only [list, mismatch] at h
    split at h <;> cases h

/-- What was read as one of several alternatives is the content of one. -/
lemma exists_of_alternative {names : List String} {content : String → Decoder α} {t : Tree} {a : α}
    (h : alternative names content t = .ok a) : ∃ name t, content name t = .ok a := by
  have known (name : String) : alternative.unknown names name ≠ .ok a := nofun
  unfold alternative at h
  split at h
  · cases h
  · split at h
    · cases h
    · exact absurd h (known _)
  · split at h
    · split at h
      · cases h
      · rename_i read
        split at h
        · cases h
          exact ⟨_, _, read⟩
        · cases h
    · exact absurd h (known _)
  · cases h

/-! ### Texts -/

/-- A decoder makes of a text what it makes of the value that the text is a form of. -/
lemma decodeText_pretty {α : Type} (d : Decoder α) (v : Value) :
    decodeText d v.pretty = d v.tree := by
  rw [decodeText, Document.ofText_pretty]
  cases d v.tree <;> rfl

lemma decodeText_compact {α : Type} (d : Decoder α) (v : Value) :
    decodeText d v.compact = d v.tree := by
  rw [decodeText, Document.ofText_compact]
  cases d v.tree <;> rfl

lemma exists_of_decodeText {α : Type} {d : Decoder α} {s : String} {a : α}
    (h : decodeText d s = .ok a) : d (Document.ofText s).tree = .ok a := by
  simp only [decodeText] at h
  split at h
  · cases h
  · rename_i read
    split at h
    · cases h
      exact read
    · cases h

end Quorum.Json
