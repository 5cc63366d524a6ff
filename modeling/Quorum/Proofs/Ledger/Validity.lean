import Quorum.Ledger.Json
import Quorum.Proofs.Ledger.Run

/-!
# Valid ledgers

A ledger is valid if its transactions stand at their positions and only owners submitted and confirm
them. New ledgers are valid, reading lets in no others, and all operations keep them so.
-/

namespace Quorum

open Time (Instant)

/-- A transaction that operations could have left at a position. -/
structure Transaction.Fits (t : Transaction) (owners : OwnerSet) (position : Nat) : Prop where
  index_eq : t.index = position
  submitter : t.submittedBy ∈ owners.owners
  confirmers : ∀ a ∈ t.confirmations, a ∈ owners.owners

namespace Ledger

variable {σ : Type} {d : Dispatcher σ} {l : Ledger} {st : σ} {now : Instant} {op : Operation}

/-- All transactions fit the owner set and their positions. -/
def Valid (l : Ledger) : Prop :=
  ∀ (index : Nat) (t : Transaction), l.transactions[index]? = some t → t.Fits l.owners index

/-- The ledgers that a run may start from: new ones, and those that were read. -/
inductive Origin : Ledger → Prop
  | created (owners : OwnerSet) : Origin (create owners)
  | read {tree : Json.Tree} {l : Ledger} (accepted : decode tree = .ok l) : Origin l

/-! ### Ledgers to start from -/

lemma valid_create (owners : OwnerSet) : (create owners).Valid := by
  intro index t h
  simp [create] at h

private lemma fits_of_transactionFault? {owners : OwnerSet} {position : Nat} {t : Transaction}
    (h : transactionFault? owners position t = none) : t.Fits owners position := by
  unfold transactionFault? at h
  split at h
  · cases h
  · rename_i index_eq
    split at h
    · cases h
    · rename_i submitter
      simp only [Option.map_eq_none_iff, List.find?_eq_none] at h
      exact ⟨by simpa using index_eq, by simpa using submitter,
        fun a ha => by simpa using h a ha⟩

private lemma fits_of_fault? {owners : OwnerSet} {ts : List Transaction} :
    ∀ {position : Nat}, fault? owners position ts = none →
      ∀ (index : Nat) (t : Transaction), ts[index]? = some t →
        t.Fits owners (position + index) := by
  induction ts with
  | nil => simp
  | cons t ts ih =>
    intro position h index t' ht'
    simp only [fault?] at h
    split at h
    · cases h
    · rename_i fits
      cases index with
      | zero =>
        cases ht'
        exact fits_of_transactionFault? fits
      | succ index =>
        have := ih h index t' (by simpa using ht')
        rwa [Nat.add_right_comm] at this

lemma valid_of_assemble {owners : OwnerSet} {address : Address} {ts : List Transaction}
    {events : List EventRecord} (h : assemble owners address ts events = .ok l) : l.Valid := by
  unfold assemble at h
  split at h
  · cases h
  · split at h
    · cases h
    · rename_i sound
      cases h
      intro index t ht
      simpa using fits_of_fault? sound index t ht

/-- Parts that are put together are those of the ledger, and the address is that of its owners. -/
lemma parts_of_assemble {owners : OwnerSet} {address : Address} {ts : List Transaction}
    {events : List EventRecord} (h : assemble owners address ts events = .ok l) :
    l = ⟨owners, ts, events⟩ ∧ address = owners.walletAddress := by
  unfold assemble at h
  split at h
  · cases h
  · rename_i own
    split at h
    · cases h
    · cases h
      exact ⟨rfl, by simpa using own⟩

/-- Whatever the text, a ledger that is read is valid. -/
lemma valid_of_decode {tree : Json.Tree} (h : decode tree = .ok l) : l.Valid := by
  obtain ⟨draft, h⟩ := Json.exists_finish_of_record h
  obtain ⟨owners, _, h⟩ := Json.exists_of_bind_eq_ok h
  obtain ⟨address, _, h⟩ := Json.exists_of_bind_eq_ok h
  obtain ⟨transactions, _, h⟩ := Json.exists_of_bind_eq_ok h
  split at h
  · rename_i whole
    cases h
    exact valid_of_assemble whole
  · cases h

theorem Origin.valid (h : Origin l) : l.Valid := by
  cases h with
  | created owners => exact valid_create owners
  | read accepted => exact valid_of_decode accepted

/-! ### Operations -/

lemma Valid.replace {index : Nat} {t : Transaction} (hl : l.Valid) (ht : t.Fits l.owners index) :
    (l.replace index t).Valid := by
  intro j t' h
  rw [transactions_replace, List.getElem?_set] at h
  split at h
  · rename_i heq
    split at h
    · cases h
      exact heq ▸ ht
    · cases h
  · exact hl j t' h

lemma Confirms.fits {c : Confirmation} {reply : Bool → Reply} (h : Confirms l now op c reply)
    (hl : l.Valid) : c.transaction.Fits l.owners c.index := by
  cases h with
  | submit owner =>
    exact ⟨rfl, owner, fun a ha => Transaction.mem_confirmations_propose.mp ha ▸ owner⟩
  | confirm owner found =>
    have fits := hl _ _ found
    refine ⟨fits.index_eq, fits.submitter, fun a ha => ?_⟩
    rcases Transaction.mem_confirmations_confirm.mp ha with rfl | ha
    · exact owner
    · exact fits.confirmers a ha

lemma Confirms.valid {c : Confirmation} {reply : Bool → Reply} (h : Confirms l now op c reply)
    (hl : l.Valid) : c.ledger.Valid := by
  intro index t ht
  rw [h.owners_eq]
  by_cases hindex : index = c.index
  · subst hindex
    rw [h.getElem?_index, Option.some.injEq] at ht
    exact ht ▸ h.fits hl
  · rw [h.getElem?_of_ne hindex] at ht
    exact hl index t ht

lemma Settled.valid {c : Confirmation} {out : Outcome σ Bool} {attempts : List CallAttempt}
    (h : Settled d st now c out attempts)
    (found : c.ledger.transactions[c.index]? = some c.transaction) (hc : c.ledger.Valid) :
    out.ledger.Valid := by
  have fits := hc c.index c.transaction found
  cases h with
  | waits => exact hc
  | executes =>
    exact hc.replace (t := c.transaction.markExecuted now)
      ⟨fits.index_eq, fits.submitter, fits.confirmers⟩
  | fails =>
    exact hc.replace (t := c.transaction.recordFailure _)
      ⟨fits.index_eq, fits.submitter, fits.confirmers⟩

/-- Every operation keeps a ledger valid. -/
theorem invariant_valid : Invariant Valid := by
  intro σ d l st now op out attempts h hl
  cases h with
  | refuses => exact hl
  | confirms recorded settled => exact settled.valid recorded.getElem?_index (recorded.valid hl)
  | revokes owner found unexecuted confirmed =>
    have fits := hl _ _ found
    exact hl.replace ⟨fits.index_eq, fits.submitter,
      fun a ha => fits.confirmers a (Transaction.mem_confirmations_revoke.mp ha).1⟩
  | records => exact hl

end Ledger

end Quorum
