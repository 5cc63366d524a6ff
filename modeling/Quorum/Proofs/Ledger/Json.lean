import Quorum.Proofs.Address.Json
import Quorum.Proofs.Ledger.Validity
import Quorum.Proofs.Time.Reading

/-!
# Ledgers read back

Owner sets, transactions, events and whole ledgers are read as what they were written for, as long
as the numbers in them fit into the words that are read. Whatever was read does fit.
-/

namespace Quorum

open Json

lemma Time.Instant.decode_toJson (i : Time.Instant) : Time.Instant.decode i.toJson.tree = .ok i :=
  parsed_tree "an RFC 3339 formatted date and time string" i.parse_render

/-! ### Owner sets -/

lemma repeated?_eq_none {as : List Address} (distinct : as.Nodup) : repeated? as = none := by
  induction as with
  | nil => rfl
  | cons a as ih =>
    obtain ⟨fresh, rest⟩ := List.nodup_cons.mp distinct
    cases as with
    | nil => rfl
    | cons b as =>
      have ne : a ≠ b := fun h => fresh (h ▸ List.mem_cons_self)
      rw [repeated?, if_neg ne, ih rest]

namespace OwnerSet

/-- The parts of an owner set make it up again. -/
lemma create_eq_ok (s : OwnerSet) : create s.owners s.required = .ok s := by
  have some : s.owners ≠ [] := by
    intro none
    have le := s.required_le
    have pos := s.required_pos
    simp [none] at le
    omega
  have distinct : repeated? (sortAddresses s.owners) = none :=
    repeated?_eq_none ((sortAddresses_perm _).nodup_iff.mpr s.nodup)
  rw [create, if_neg some, dif_pos s.required_pos, dif_pos s.required_le]
  split
  · rename_i owner repeated
    rw [distinct] at repeated
    cases repeated
  · rfl

lemma decode_toJson (s : OwnerSet) : decode s.toJson.tree = .ok s := by
  have owners : list Address.decode (Value.array (s.owners.map Address.toJson)).tree
      = .ok s.owners := list_tree fun a _ => a.decode_toJson
  have required : Json.size (Value.natural s.threshold).tree = .ok s.required :=
    wordAs_toNat "usize" s.required
  refine (record_tree_eq_ok_iff rfl (by decide)).mpr ⟨⟨some s.owners, some s.required⟩, ?_, ?_⟩
  · simp [fill, Draft.set, owners, required]
  · simp [Draft.finish, need, create_eq_ok]

end OwnerSet

/-! ### Transactions -/

lemma Call.decode_toJson (c : Call) : Call.decode c.toJson.tree = .ok c := by
  refine (record_tree_eq_ok_iff rfl (by decide)).mpr
    ⟨⟨some c.destination, some c.value, some c.data⟩, ?_, rfl⟩
  simp [fill, Draft.set, Address.decode_toJson, Amount.decode_toJson, Payload.decode_toJson]

lemma size_tree {n : Nat} (fits : n < UInt64.size) :
    Json.size (Value.natural n).tree = .ok (UInt64.ofNat n) :=
  wordAs_tree "usize" fits

lemma word_tree {n : Nat} (fits : n < UInt64.size) :
    Json.word (Value.natural n).tree = .ok (UInt64.ofNat n) :=
  wordAs_tree "u64" fits

lemma Transaction.decode_toJson (t : Transaction) (fits : t.index < UInt64.size) :
    Transaction.decode t.toJson.tree = .ok t := by
  have executedAt : optional Time.Instant.decode
      (Value.optional Time.Instant.toJson t.executedAt).tree = .ok t.executedAt :=
    optional_tree (fun _ => nofun) fun i _ => i.decode_toJson
  have lastFailure : optional text (Value.optional .text t.lastFailure).tree
      = .ok t.lastFailure :=
    optional_tree (fun _ => nofun) fun s _ => text_tree s
  refine (record_tree_eq_ok_iff rfl (by decide)).mpr
    ⟨⟨some (UInt64.ofNat t.index), some t.call, some t.executed, some t.confirmations,
      some t.submittedBy, some t.submittedAt, t.executedAt, t.lastFailure⟩, ?_, ?_⟩
  · simp [fill, Draft.set, size_tree fits, Call.decode_toJson, AddressSet.decode_toJson,
      Address.decode_toJson, Time.Instant.decode_toJson, executedAt, lastFailure]
  · simp [Draft.finish, need, UInt64.toNat_ofNat_of_lt' fits]

/-! ### Events -/

/-- The transaction that an event is about has an index that can be read. -/
def Event.Fits (e : Event) : Prop :=
  ∀ index ∈ e.transactionIndex?, index < UInt64.size

lemma Event.decode_toJson (e : Event) (fits : e.Fits) : Event.decode e.toJson.tree = .ok e := by
  cases e with
  | deposit source amount =>
    refine alternative_tree (by decide) ((record_tree_eq_ok_iff rfl (by decide)).mpr
      ⟨⟨some source, some amount, none, none, none, none, none⟩, ?_, ?_⟩)
    · simp [fill, fieldsOf, Draft.put, Address.decode_toJson, Amount.decode_toJson]
    · simp [Draft.finish, need]
  | submission index owner destination value =>
    have index_fits : index < UInt64.size := fits index rfl
    refine alternative_tree (by decide) ((record_tree_eq_ok_iff rfl (by decide)).mpr
      ⟨⟨none, none, some (UInt64.ofNat index), some owner, some destination, some value, none⟩,
        ?_, ?_⟩)
    · simp [fill, fieldsOf, Draft.put, Address.decode_toJson, Amount.decode_toJson,
        size_tree index_fits]
    · simp [Draft.finish, need, UInt64.toNat_ofNat_of_lt' index_fits]
  | confirmation index owner =>
    have index_fits : index < UInt64.size := fits index rfl
    refine alternative_tree (by decide) ((record_tree_eq_ok_iff rfl (by decide)).mpr
      ⟨⟨none, none, some (UInt64.ofNat index), some owner, none, none, none⟩, ?_, ?_⟩)
    · simp [fill, fieldsOf, Draft.put, Address.decode_toJson, size_tree index_fits]
    · simp [Draft.finish, need, UInt64.toNat_ofNat_of_lt' index_fits]
  | revocation index owner =>
    have index_fits : index < UInt64.size := fits index rfl
    refine alternative_tree (by decide) ((record_tree_eq_ok_iff rfl (by decide)).mpr
      ⟨⟨none, none, some (UInt64.ofNat index), some owner, none, none, none⟩, ?_, ?_⟩)
    · simp [fill, fieldsOf, Draft.put, Address.decode_toJson, size_tree index_fits]
    · simp [Draft.finish, need, UInt64.toNat_ofNat_of_lt' index_fits]
  | execution index =>
    have index_fits : index < UInt64.size := fits index rfl
    refine alternative_tree (by decide) ((record_tree_eq_ok_iff rfl (by decide)).mpr
      ⟨⟨none, none, some (UInt64.ofNat index), none, none, none, none⟩, ?_, ?_⟩)
    · simp [fill, fieldsOf, Draft.put, size_tree index_fits]
    · simp [Draft.finish, need, UInt64.toNat_ofNat_of_lt' index_fits]
  | executionFailure index reason =>
    have index_fits : index < UInt64.size := fits index rfl
    refine alternative_tree (by decide) ((record_tree_eq_ok_iff rfl (by decide)).mpr
      ⟨⟨none, none, some (UInt64.ofNat index), none, none, none, some reason⟩, ?_, ?_⟩)
    · simp [fill, fieldsOf, Draft.put, size_tree index_fits]
    · simp [Draft.finish, need, UInt64.toNat_ofNat_of_lt' index_fits]

/-- The numbers of a record can be read. -/
structure EventRecord.Fits (r : EventRecord) : Prop where
  sequence : r.sequence < UInt64.size
  event : r.event.Fits

lemma EventRecord.decode_toJson (r : EventRecord) (fits : r.Fits) :
    EventRecord.decode r.toJson.tree = .ok r := by
  refine (record_tree_eq_ok_iff rfl (by decide)).mpr
    ⟨⟨some (UInt64.ofNat r.sequence), some r.time, some r.event⟩, ?_, ?_⟩
  · simp [fill, Draft.set, word_tree fits.sequence, Time.Instant.decode_toJson,
      Event.decode_toJson r.event fits.event]
  · simp [Draft.finish, need, UInt64.toNat_ofNat_of_lt' fits.sequence]

/-! ### What was read fits -/

lemma Transaction.index_lt_of_decode {tree : Tree} {t : Transaction}
    (h : Transaction.decode tree = .ok t) : t.index < UInt64.size := by
  obtain ⟨draft, h⟩ := exists_finish_of_record h
  obtain ⟨index, _, h⟩ := exists_of_bind_eq_ok h
  obtain ⟨call, _, h⟩ := exists_of_bind_eq_ok h
  obtain ⟨executed, _, h⟩ := exists_of_bind_eq_ok h
  obtain ⟨confirmations, _, h⟩ := exists_of_bind_eq_ok h
  obtain ⟨submittedBy, _, h⟩ := exists_of_bind_eq_ok h
  obtain ⟨submittedAt, _, h⟩ := exists_of_bind_eq_ok h
  cases h
  exact index.toNat_lt

lemma Event.fits_of_finish {kind : String} {draft : Event.Draft} {e : Event}
    (h : draft.finish kind = .ok e) : e.Fits := by
  unfold Draft.finish at h
  split at h
  · obtain ⟨source, _, h⟩ := exists_of_bind_eq_ok h
    obtain ⟨amount, _, h⟩ := exists_of_bind_eq_ok h
    cases h
    exact fun index none => nomatch none
  · obtain ⟨index, _, h⟩ := exists_of_bind_eq_ok h
    obtain ⟨owner, _, h⟩ := exists_of_bind_eq_ok h
    obtain ⟨destination, _, h⟩ := exists_of_bind_eq_ok h
    obtain ⟨value, _, h⟩ := exists_of_bind_eq_ok h
    cases h
    rintro _ ⟨⟩
    exact index.toNat_lt
  · obtain ⟨index, _, h⟩ := exists_of_bind_eq_ok h
    obtain ⟨owner, _, h⟩ := exists_of_bind_eq_ok h
    cases h
    rintro _ ⟨⟩
    exact index.toNat_lt
  · obtain ⟨index, _, h⟩ := exists_of_bind_eq_ok h
    obtain ⟨owner, _, h⟩ := exists_of_bind_eq_ok h
    cases h
    rintro _ ⟨⟩
    exact index.toNat_lt
  · obtain ⟨index, _, h⟩ := exists_of_bind_eq_ok h
    cases h
    rintro _ ⟨⟩
    exact index.toNat_lt
  · obtain ⟨index, _, h⟩ := exists_of_bind_eq_ok h
    obtain ⟨reason, _, h⟩ := exists_of_bind_eq_ok h
    cases h
    rintro _ ⟨⟩
    exact index.toNat_lt

lemma Event.fits_of_decode {tree : Tree} {e : Event} (h : Event.decode tree = .ok e) : e.Fits := by
  obtain ⟨kind, tree, h⟩ := exists_of_alternative h
  obtain ⟨draft, h⟩ := exists_finish_of_record h
  exact fits_of_finish h

lemma EventRecord.fits_of_decode {tree : Tree} {r : EventRecord}
    (h : EventRecord.decode tree = .ok r) : r.Fits := by
  have set_event {index : Nat} {t : Tree} {draft draft' : EventRecord.Draft}
      (taken : draft.set index t = .ok draft') (kept : ∀ e ∈ draft.event, e.Fits) :
      ∀ e ∈ draft'.event, e.Fits := by
    unfold Draft.set at taken
    split at taken
    · obtain ⟨sequence, _, rfl⟩ := exists_of_map_eq_ok taken
      exact kept
    · obtain ⟨time, _, rfl⟩ := exists_of_map_eq_ok taken
      exact kept
    · obtain ⟨event, read, rfl⟩ := exists_of_map_eq_ok taken
      rintro _ ⟨⟩
      exact Event.fits_of_decode read
  obtain ⟨draft, fits, h⟩ := exists_draft_of_record (by simp) set_event h
  obtain ⟨sequence, _, h⟩ := exists_of_bind_eq_ok h
  obtain ⟨time, _, h⟩ := exists_of_bind_eq_ok h
  obtain ⟨event, there, h⟩ := exists_of_bind_eq_ok h
  cases h
  exact ⟨sequence.toNat_lt, fits event (mem_of_need there)⟩

/-! ### Ledgers -/

namespace Ledger

variable {l : Ledger}

/-- A ledger that can be read back: it is valid, and its numbers fit into words. -/
structure Storable (l : Ledger) : Prop where
  valid : l.Valid
  indices : ∀ t ∈ l.transactions, t.index < UInt64.size
  events : ∀ r ∈ l.events, r.Fits

private lemma fault?_eq_none {owners : OwnerSet} {ts : List Transaction} :
    ∀ {position : Nat}, (∀ (index : Nat) (t : Transaction), ts[index]? = some t →
      t.Fits owners (position + index)) → fault? owners position ts = none := by
  induction ts with
  | nil => simp [fault?]
  | cons t ts ih =>
    intro position h
    have fits := h 0 t rfl
    have confirmers : ∀ a ∈ t.confirmations.toList, a ∈ owners.owners := fits.confirmers
    have submitter : owners.contains t.submittedBy = true :=
      OwnerSet.contains_iff.mpr fits.submitter
    have fine : transactionFault? owners position t = none := by
      simpa [transactionFault?, fits.index_eq, submitter] using confirmers
    rw [fault?, fine]
    refine ih fun index t' found => ?_
    have fits := h (index + 1) t' (by simpa using found)
    rwa [← Nat.add_assoc, Nat.add_right_comm] at fits

/-- The parts of a valid ledger make it up again. -/
lemma assemble_eq_ok (h : l.Valid) :
    assemble l.owners l.address l.transactions l.events = .ok l := by
  have sound : fault? l.owners 0 l.transactions = none :=
    fault?_eq_none fun index t found => by simpa using h index t found
  rw [assemble, if_neg (by simp [address]), sound]

theorem decode_toJson (h : l.Storable) : decode l.toJson.tree = .ok l := by
  have transactions : list Transaction.decode
      (Value.array (l.transactions.map Transaction.toJson)).tree = .ok l.transactions :=
    list_tree fun t ht => t.decode_toJson (h.indices t ht)
  have events : list EventRecord.decode (Value.array (l.events.map EventRecord.toJson)).tree
      = .ok l.events :=
    list_tree fun r hr => r.decode_toJson (h.events r hr)
  refine (record_tree_eq_ok_iff rfl (by decide)).mpr
    ⟨⟨some l.owners, some l.address, some l.transactions, l.events⟩, ?_, ?_⟩
  · simp [fill, Draft.set, OwnerSet.decode_toJson, Address.decode_toJson, transactions, events]
  · simp [Draft.finish, need, assemble_eq_ok h.valid]

/-- Whatever was read can be read back. -/
theorem storable_of_decode {tree : Tree} (h : decode tree = .ok l) : l.Storable := by
  have fits {index : Nat} {t : Tree} {draft draft' : Draft} (taken : draft.set index t = .ok draft')
      (kept : (∀ ts ∈ draft.transactions, ∀ t ∈ ts, t.index < UInt64.size) ∧
        ∀ r ∈ draft.events, r.Fits) :
      (∀ ts ∈ draft'.transactions, ∀ t ∈ ts, t.index < UInt64.size) ∧
        ∀ r ∈ draft'.events, r.Fits := by
    unfold Draft.set at taken
    split at taken
    · obtain ⟨owners, _, rfl⟩ := exists_of_map_eq_ok taken
      exact kept
    · obtain ⟨address, _, rfl⟩ := exists_of_map_eq_ok taken
      exact kept
    · obtain ⟨transactions, read, rfl⟩ := exists_of_map_eq_ok taken
      refine ⟨?_, kept.2⟩
      rintro _ ⟨⟩ t ht
      obtain ⟨tree, read⟩ := exists_of_mem_list read t ht
      exact Transaction.index_lt_of_decode read
    · obtain ⟨events, read, rfl⟩ := exists_of_map_eq_ok taken
      refine ⟨kept.1, fun r hr => ?_⟩
      obtain ⟨tree, read⟩ := exists_of_mem_list read r hr
      exact EventRecord.fits_of_decode read
  have valid := valid_of_decode h
  obtain ⟨draft, ⟨indices, events⟩, h⟩ := exists_draft_of_record (by simp) fits h
  obtain ⟨owners, _, h⟩ := exists_of_bind_eq_ok h
  obtain ⟨address, _, h⟩ := exists_of_bind_eq_ok h
  obtain ⟨transactions, there, h⟩ := exists_of_bind_eq_ok h
  split at h
  · rename_i whole
    cases h
    obtain ⟨rfl, _⟩ := parts_of_assemble whole
    exact ⟨valid, indices _ (mem_of_need there), events⟩
  · cases h

/-! ### Ledgers in use -/

open Time (Instant)

/-- The numbers of the events do not go beyond what the ledger counts, unless they fit into words
anyway. -/
def Counts (l : Ledger) : Prop :=
  ∀ r ∈ l.events, (r.sequence < UInt64.size ∨ r.sequence < l.events.length) ∧
    ∀ index ∈ r.event.transactionIndex?, index < UInt64.size ∨ index < l.transactions.length

lemma counts_create (owners : OwnerSet) : (create owners).Counts := by
  simp [Counts, create]

lemma Storable.counts (h : l.Storable) : l.Counts :=
  fun r hr =>
    ⟨.inl (h.events r hr).sequence, fun index mem => .inl ((h.events r hr).event index mem)⟩

/-- A ledger in use can be read back while it counts no more than words can hold. -/
lemma storable_of_counts (valid : l.Valid) (counts : l.Counts)
    (transactions_fit : l.transactions.length ≤ UInt64.size)
    (events_fit : l.events.length ≤ UInt64.size) : l.Storable := by
  refine ⟨valid, fun t ht => ?_, fun r hr => ⟨?_, fun index mem => ?_⟩⟩
  · obtain ⟨index, found⟩ := List.mem_iff_getElem?.mp ht
    obtain ⟨inside, _⟩ := List.getElem?_eq_some_iff.mp found
    rw [(valid index t found).index_eq]
    omega
  · have := (counts r hr).1
    omega
  · have := (counts r hr).2 index mem
    omega

variable {now : Instant}

lemma Counts.record (h : l.Counts) {event : Event}
    (about : ∀ index ∈ event.transactionIndex?, index < l.transactions.length) :
    (l.record now event).Counts := by
  intro r hr
  rw [events_record, List.length_append, List.length_singleton, transactions_record]
  rcases List.mem_append.mp hr with old | new
  · obtain ⟨sequence, index⟩ := h r old
    exact ⟨by omega, index⟩
  · obtain rfl := List.mem_singleton.mp new
    exact ⟨.inr (Nat.lt_succ_self _), fun index mem => .inr (about index mem)⟩

lemma Counts.replace (h : l.Counts) (index : Nat) (t : Transaction) :
    (l.replace index t).Counts := by
  intro r hr
  rw [events_replace, transactions_replace, List.length_set]
  exact h r hr

lemma Confirms.counts {op : Operation} {c : Confirmation} {reply : Bool → Reply}
    (h : Confirms l now op c reply) (counts : l.Counts) : c.ledger.Counts := by
  cases h with
  | @submit caller call =>
    let t := Transaction.propose l.transactions.length call caller now
    have grown : ({ l with transactions := l.transactions ++ [t] } : Ledger).Counts := by
      intro r hr
      obtain ⟨sequence, index⟩ := counts r hr
      refine ⟨sequence, fun i mem => ?_⟩
      have := index i mem
      simp only [List.length_append, List.length_singleton]
      omega
    have about : ∀ index ∈ some l.transactions.length, index < (l.transactions ++ [t]).length := by
      rintro _ ⟨⟩
      simp
    refine Counts.record (Counts.record grown ?_) ?_
    · exact about
    · exact about
  | @confirm caller index t owner found =>
    obtain ⟨inside, _⟩ := List.getElem?_eq_some_iff.mp found
    refine (counts.replace index _).record ?_
    rintro _ ⟨⟩
    rwa [transactions_replace, List.length_set]

lemma Settled.counts {σ : Type} {d : Dispatcher σ} {st : σ} {c : Confirmation}
    {out : Outcome σ Bool} {attempts : List CallAttempt} (h : Settled d st now c out attempts)
    (found : c.ledger.transactions[c.index]? = some c.transaction) (counts : c.ledger.Counts) :
    out.ledger.Counts := by
  obtain ⟨inside, _⟩ := List.getElem?_eq_some_iff.mp found
  cases h with
  | waits => exact counts
  | executes =>
    refine (counts.replace c.index _).record ?_
    rintro _ ⟨⟩
    rwa [transactions_replace, List.length_set]
  | fails =>
    refine (counts.replace c.index _).record ?_
    rintro _ ⟨⟩
    rwa [transactions_replace, List.length_set]

/-- Every operation numbers its events by what the ledger counts. -/
lemma invariant_counts : Invariant Counts := by
  intro σ d l st now op out attempts h counts
  cases h with
  | refuses => exact counts
  | records => exact counts.record (by simp [Event.transactionIndex?])
  | confirms recorded settled =>
    exact settled.counts recorded.getElem?_index (recorded.counts counts)
  | @revokes caller index t owner found =>
    obtain ⟨inside, _⟩ := List.getElem?_eq_some_iff.mp found
    refine (counts.replace index _).record ?_
    rintro _ ⟨⟩
    rwa [transactions_replace, List.length_set]

end Ledger

end Quorum
