import Quorum.Proofs.Ledger.Reads
import Quorum.Proofs.Wallet.RoundTrip
import Quorum.Server.View

/-!
# What wallets show

Whether a wallet is new or was read from a text, and whatever became of it since, its owners are
distinct, its transactions stand at their indices, and only owners submitted and confirm them. What
is read of it, and what the server shows of a transaction, is therefore the same on every way.
-/

namespace Quorum

/-- The member of an object under a name. -/
def Json.Value.member? (name : String) : Json.Value → Option Json.Value
  | .object members => members.lookup name
  | _ => none

/-- Fields that were read make up a ledger only if the address among them is that of the owners
among them. -/
lemma Ledger.address_of_finish {draft : Ledger.Draft} {l : Ledger} (h : draft.finish = .ok l) :
    draft.owners = some l.owners ∧ draft.address = some l.owners.walletAddress := by
  obtain ⟨owners, owners_there, h⟩ := Json.exists_of_bind_eq_ok h
  obtain ⟨address, address_there, h⟩ := Json.exists_of_bind_eq_ok h
  obtain ⟨transactions, _, h⟩ := Json.exists_of_bind_eq_ok h
  split at h
  · rename_i whole
    cases h
    obtain ⟨rfl, rfl⟩ := parts_of_assemble whole
    exact ⟨Json.mem_of_need owners_there, Json.mem_of_need address_there⟩
  · cases h

namespace Server

variable {l : Ledger} {t : Transaction}

lemma confirmedBy_of_getElem? (found : l.transactions[t.index]? = some t) :
    confirmedBy l t = l.owners.owners.filter t.confirmations.contains := by
  rw [confirmedBy, Ledger.confirmations_of_getElem? found]
  rfl

lemma member?_confirmations : (transactionView l t).member? "confirmations"
    = some (.natural t.count) := rfl

lemma member?_confirmed_by : (transactionView l t).member? "confirmed_by"
    = some (.array ((confirmedBy l t).map Address.toJson)) := rfl

end Server

namespace Wallet

open Server (transactionView)

/-- Every wallet that a program can have is well formed: owners who pass the checks of a new owner
set, as they are distinct and at least one and at most all of them are required; the address that
belongs to them; and transactions at their indices, submitted and confirmed by owners only. So all
that is read of it agrees: the owners who confirm a transaction are in the order of the owner set
just the members of its confirmations, and their number is the one that is shown with them; the
pending transactions are those that are not executed, in the order of their indices; and their
number, with that of the executed ones, makes up that of all. -/
theorem reads_agree {w : Wallet} (reachable : Reachable w) :
    let l := w.ledger
    (OwnerSet.create l.owners.owners l.owners.required = .ok l.owners ∧
      l.owners.owners.Nodup ∧ 1 ≤ l.required ∧ l.required ≤ l.owners.size) ∧
    (l.address = l.owners.walletAddress ∧
      ∀ draft : Ledger.Draft, draft.finish = .ok l →
        draft.owners = some l.owners ∧ draft.address = some l.owners.walletAddress) ∧
    (∀ (i : Nat) (t : Transaction), l.transactions[i]? = some t →
      t.index = i ∧ t.submittedBy ∈ l.owners.owners ∧
      ∀ a ∈ t.confirmations, a ∈ l.owners.owners) ∧
    (∀ (i : Nat) (t : Transaction), l.transactions[i]? = some t → ∃ confirming,
      l.confirmations i = .ok confirming ∧ confirming.Sublist l.owners.owners ∧
      (∀ a, a ∈ confirming ↔ a ∈ t.confirmations) ∧ confirming.length = t.count ∧
      (transactionView l t).member? "confirmations" = some (.natural confirming.length) ∧
      (transactionView l t).member? "confirmed_by"
        = some (.array (confirming.map Address.toJson))) ∧
    (∀ i, l.transactions.length ≤ i → l.confirmations i = .error (.invalidIndex i)) ∧
    (l.pending.Sublist l.transactions ∧
      (∀ t, t ∈ l.pending ↔ t ∈ l.transactions ∧ t.executed = false) ∧
      l.pending.map (·.index)
        = (List.range l.transactions.length).filter fun i => !l.isExecuted i) ∧
    (l.status.pending + l.status.executed = l.status.transactionCount ∧
      l.status.transactionCount = l.transactions.length ∧
      l.status.pending = l.pending.length) := by
  intro l
  have valid : l.Valid := reachable.sound.1
  refine ⟨⟨l.owners.create_eq_ok, l.owners.nodup, l.owners.required_pos, l.owners.required_le⟩,
    ⟨rfl, fun draft => Ledger.address_of_finish⟩, fun i t found => ?_, fun i t found => ?_,
    fun i => Ledger.confirmations_of_length_le, ?_, ?_⟩
  · have fits := valid i t found
    exact ⟨fits.index_eq, fits.submitter, fits.confirmers⟩
  · have fits := valid i t found
    have same : Server.confirmedBy l t = l.owners.owners.filter t.confirmations.contains :=
      Server.confirmedBy_of_getElem? (fits.index_eq ▸ found)
    refine ⟨_, Ledger.confirmations_of_getElem? found, List.filter_sublist, fun a => ?_,
      fits.length_filter, ?_, ?_⟩
    · rw [List.mem_filter, AddressSet.contains_iff]
      exact ⟨fun h => h.2, fun h => ⟨fits.confirmers a h, h⟩⟩
    · rw [Server.member?_confirmations, fits.length_filter]
    · rw [Server.member?_confirmed_by, same]
  · exact ⟨List.filter_sublist, fun t => Ledger.mem_pending_iff, valid.map_index_pending⟩
  · exact ⟨l.status_pending_add_executed, rfl, l.status_pending⟩

/-- The wallet of two owners, with a call that the first of them submitted. -/
def proposed : Wallet :=
  (create Ledger.couple).act .epoch (.operate (.submit .zero ⟨.zero, 0, []⟩))

/-- The submitter is shown to confirm the call. -/
theorem proposed_shows_submitter : Reachable proposed ∧
    ∃ t, proposed.ledger.transactions[0]? = some t ∧
      (transactionView proposed.ledger t).member? "confirmations" = some (.natural 1) ∧
      (transactionView proposed.ledger t).member? "confirmed_by"
        = some (.array [Address.zero.toJson]) := by
  have reachable : Reachable proposed :=
    (Reachable.created Ledger.couple).acts .epoch (.operate (.submit .zero ⟨.zero, 0, []⟩))
  obtain ⟨t, found⟩ : ∃ t, proposed.ledger.transactions[0]? = some t := ⟨_, rfl⟩
  obtain ⟨_, _, _, shown, _⟩ := reads_agree reachable
  obtain ⟨confirming, read, _, _, _, number, names⟩ := shown 0 t found
  have sole : confirming = [Address.zero] := by
    cases read
    decide
  subst sole
  exact ⟨reachable, t, found, number, names⟩

end Wallet

end Quorum
