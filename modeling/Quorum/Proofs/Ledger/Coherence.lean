import Quorum.Proofs.Audit.Log
import Quorum.Proofs.Ledger.Json
import Quorum.Time.Epoch

/-!
# Coherent ledgers

In a coherent ledger the flags, times and failures of a transaction agree with its confirmations, and
the events are numbered from zero. All operations keep a ledger coherent. Reading a ledger, on the
other hand, does not look at any of this.
-/

namespace Quorum

open Time (Instant)

/-- A transaction as operations leave it. -/
structure Transaction.Coherent (t : Transaction) (required : Nat) : Prop where
  executed : t.executed = true → required ≤ t.count ∧ t.executedAt.isSome ∧ t.lastFailure = none
  unexecuted : t.executed = false → t.executedAt = none ∧
    (required ≤ t.count → t.lastFailure.isSome)

/-- Taking back a confirmation leaves no more of them. -/
lemma Transaction.count_revoke_le (t : Transaction) (owner : Address) :
    (t.revoke owner).count ≤ t.count :=
  List.length_filter_le _ _

/-- Taking back a confirmation of an open transaction keeps it coherent. -/
lemma Transaction.Coherent.revoke {t : Transaction} {required : Nat}
    (h : t.Coherent required) (unexecuted : t.executed = false) (owner : Address) :
    (t.revoke owner).Coherent required := by
  obtain ⟨untimed, failed⟩ := h.unexecuted unexecuted
  constructor
  case executed => simp [unexecuted]
  case unexecuted =>
    exact fun _ => ⟨untimed, fun enough => failed (Nat.le_trans enough (t.count_revoke_le owner))⟩

namespace Ledger

variable {σ : Type} {d : Dispatcher σ} {l : Ledger} {st : σ} {now : Instant} {op : Operation}

/-- All transactions are coherent, and the events are numbered from zero. -/
structure Coherent (l : Ledger) : Prop where
  transactions : ∀ (index : Nat) (t : Transaction), l.transactions[index]? = some t →
    t.Coherent l.required
  numbered : l.Numbered

lemma coherent_create (owners : OwnerSet) : (create owners).Coherent where
  transactions index t found := by simp [create] at found
  numbered k r found := by simp [create] at found

/-! ### Operations -/

/-- A transaction that is confirmed has no time of execution if it had none. -/
lemma Confirms.executedAt_eq_none {c : Confirmation} {reply : Bool → Reply}
    (h : Confirms l now op c reply) (hl : l.Coherent) : c.transaction.executedAt = none := by
  cases h with
  | submit => rfl
  | confirm owner found unexecuted => exact ((hl.transactions _ _ found).unexecuted unexecuted).1

/-- A transaction is coherent once it is settled, whatever its confirmation left. -/
lemma Settled.coherent {c : Confirmation} {out : Outcome σ Bool} {attempts : List CallAttempt}
    (h : Settled d st now c out attempts)
    (found : c.ledger.transactions[c.index]? = some c.transaction)
    (unexecuted : c.transaction.executed = false) (untimed : c.transaction.executedAt = none)
    {t : Transaction} (settled : out.ledger.transactions[c.index]? = some t) :
    t.Coherent c.ledger.required := by
  obtain ⟨inside, _⟩ := List.getElem?_eq_some_iff.mp found
  cases h with
  | waits few =>
    rw [found, Option.some.injEq] at settled
    subst settled
    constructor
    case executed => simp [unexecuted]
    case unexecuted => exact fun _ => ⟨untimed, fun enough => absurd few (Nat.not_lt.mpr enough)⟩
  | executes enough =>
    have marked : c.transaction.markExecuted now = t := by simpa [inside] using settled
    subst marked
    constructor
    case executed => exact fun _ => ⟨enough, rfl, rfl⟩
    case unexecuted => simp
  | @fails _ e =>
    have noted : c.transaction.recordFailure e.message = t := by simpa [inside] using settled
    subst noted
    constructor
    case executed => simp [unexecuted]
    case unexecuted => exact fun _ => ⟨untimed, fun _ => rfl⟩

/-- Every operation keeps a ledger coherent. -/
theorem invariant_coherent : Invariant Coherent := by
  intro σ d l st now op out attempts h hl
  refine ⟨?_, invariant_numbered h hl.numbered⟩
  intro index t found
  -- an operation changes one transaction at most
  cases h with
  | refuses => exact hl.transactions index t found
  | records => exact hl.transactions index t found
  | @confirms _ c _ _ _ recorded settled =>
    rw [Outcome.map_ledger] at found ⊢
    rw [settled.required_eq]
    by_cases hindex : index = c.index
    · subst hindex
      exact settled.coherent recorded.getElem?_index recorded.unexecuted
        (recorded.executedAt_eq_none hl) found
    · rw [settled.getElem?_of_ne hindex, recorded.getElem?_of_ne hindex] at found
      rw [recorded.required_eq]
      exact hl.transactions index t found
  | @revokes caller j t' owner found' unexecuted confirmed =>
    by_cases hindex : index = j
    · subst hindex
      obtain ⟨inside, _⟩ := List.getElem?_eq_some_iff.mp found'
      have revoked : t'.revoke caller = t := by simpa [inside] using found
      subst revoked
      exact (hl.transactions index t' found').revoke unexecuted caller
    · rw [transactions_record, transactions_replace, List.getElem?_set_ne (Ne.symm hindex)] at found
      exact hl.transactions index t found

/-! ### Reading -/

/-- Reading lets in exactly the valid ledgers whose numbers fit into words. That a ledger is coherent
is ensured by the operations alone: a new ledger is, and operations leave no coherent ledger
incoherent. -/
theorem accepted_iff_storable (l : Ledger) :
    ((∃ text, Json.decodeText decode text = .ok l) ↔ l.Storable) ∧
    ∀ {σ : Type} (d : Dispatcher σ) (st : σ) (ops : List (Instant × Operation)),
      (∀ owners, ((create owners).run d st ops).1.Coherent) ∧
      (l.Coherent → (l.run d st ops).1.Coherent) := by
  constructor
  · constructor
    · rintro ⟨text, accepted⟩
      exact storable_of_decode (Json.exists_of_decodeText accepted)
    · intro storable
      exact ⟨l.toJson.compact, (Json.decodeText_compact decode _).trans (decode_toJson storable)⟩
  · intro σ d st ops
    constructor
    · intro owners
      exact invariant_coherent.run (coherent_create owners) ops
    · intro coherent
      exact invariant_coherent.run coherent ops

/-- A ledger that marks a transaction executed which nobody confirms. -/
def forged : Ledger where
  owners := .sole .zero
  transactions :=
    [{ Transaction.propose 0 ⟨.zero, 0, []⟩ .zero .epoch with
       executed := true, confirmations := .empty }]
  events := []

/-- The forged ledger is read. -/
theorem forged_accepted : ∃ text,
    Json.decodeText decode text = .ok forged ∧ ¬ forged.Coherent := by
  have valid : forged.Valid := by
    intro index t found
    cases index with
    | zero =>
      cases found
      exact ⟨rfl, List.mem_singleton_self _, fun a ha => absurd ha (AddressSet.not_mem_empty a)⟩
    | succ index => cases found
  have counts : forged.Counts := fun r hr => nomatch hr
  have storable : forged.Storable := storable_of_counts valid counts (by decide) (by decide)
  refine ⟨forged.toJson.compact, ?_, ?_⟩
  · rw [Json.decodeText_compact, decode_toJson storable]
  · intro coherent
    obtain ⟨few, _, _⟩ := (coherent.transactions 0 _ rfl).executed rfl
    exact absurd few (by decide)

end Ledger

end Quorum
