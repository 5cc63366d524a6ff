import Quorum.Proofs.Ledger.Json
import Quorum.Storage

/-!
# Wallets read back

The text of a wallet is read as that wallet, less the code that is registered with its treasury,
which is not written. Only a count that outgrew its word is in the way.
-/

namespace Quorum

open Json

lemma Treasury.decode_toJson (t : Treasury) :
    Treasury.decode t.toJson.tree = .ok (.ofBalances t.balances) := by
  have balances : AddressMap.decode amount (t.balances.toJson Amount.toJson).tree
      = .ok t.balances := AddressMap.decode_toJson Amount.decode_toJson t.balances
  refine (record_tree_eq_ok_iff rfl (by decide)).mpr ⟨some t.balances, ?_, rfl⟩
  simp [fill, balances]

lemma Nonces.decode_toJson (n : Nonces) : Nonces.decode n.toJson.tree = .ok n := by
  have last : AddressMap.decode word (n.last.toJson fun nonce => .natural nonce.toNat).tree
      = .ok n.last := AddressMap.decode_toJson (wordAs_toNat "u64") n.last
  rw [Nonces.decode, Nonces.toJson, last]
  rfl

/-- Whatever is read of the text of a ledger has its owners. -/
lemma Ledger.owners_of_decode_toJson {l l' : Ledger} (h : decode l.toJson.tree = .ok l') :
    l'.owners = l.owners := by
  obtain ⟨draft, filled, h⟩ := (record_tree_eq_ok_iff rfl (by decide)).mp h
  have owners_eq : draft.owners = some l.owners := by
    simp only [List.map_cons, List.map_nil, fill, Draft.set, OwnerSet.decode_toJson, map_ok,
      ok_bind] at filled
    obtain ⟨second, taken, filled⟩ := exists_of_bind_eq_ok filled
    obtain ⟨_, _, rfl⟩ := exists_of_map_eq_ok taken
    obtain ⟨third, taken, filled⟩ := exists_of_bind_eq_ok filled
    obtain ⟨_, _, rfl⟩ := exists_of_map_eq_ok taken
    obtain ⟨fourth, taken, filled⟩ := exists_of_bind_eq_ok filled
    obtain ⟨_, _, rfl⟩ := exists_of_map_eq_ok taken
    cases filled
    rfl
  obtain ⟨owners, there, h⟩ := exists_of_bind_eq_ok h
  obtain ⟨address, _, h⟩ := exists_of_bind_eq_ok h
  obtain ⟨transactions, _, h⟩ := exists_of_bind_eq_ok h
  have same : owners = l.owners := by
    rw [owners_eq] at there
    exact (Except.ok.inj there).symm
  split at h
  · rename_i whole
    cases h
    obtain ⟨rfl, _⟩ := parts_of_assemble whole
    exact same
  · cases h

namespace Wallet

/-- The wallet as its text tells it: without the code that was registered with the treasury. -/
def stored (w : Wallet) : Wallet :=
  { w with treasury := .ofBalances w.treasury.balances }

variable {w w' : Wallet}

@[simp] lemma address_stored (w : Wallet) : w.stored.address = w.address := rfl

@[simp] lemma nonces_stored (w : Wallet) : w.stored.nonces = w.nonces := rfl

lemma ofText_fileText (w : Wallet) : ofText (Storage.fileText w) = decode w.toJson.tree :=
  decodeText_pretty decode w.toJson

theorem decode_toJson (h : w.ledger.Storable) : decode w.toJson.tree = .ok w.stored := by
  refine (record_tree_eq_ok_iff rfl (by decide)).mpr
    ⟨⟨some w.ledger, some (.ofBalances w.treasury.balances), w.nonces⟩, ?_, rfl⟩
  simp [fill, Draft.set, Ledger.decode_toJson h, Treasury.decode_toJson, Nonces.decode_toJson]

/-- Whatever is read of the text of a wallet has its owners and its nonces. -/
theorem eq_of_decode_toJson (h : decode w.toJson.tree = .ok w') :
    w'.ledger.owners = w.ledger.owners ∧ w'.nonces = w.nonces := by
  obtain ⟨draft, filled, h⟩ := (record_tree_eq_ok_iff rfl (by decide)).mp h
  simp only [List.map_cons, List.map_nil, fill] at filled
  obtain ⟨first, taken, filled⟩ := exists_of_bind_eq_ok filled
  obtain ⟨ledger, read, rfl⟩ := exists_of_map_eq_ok taken
  simp only [Draft.set, Treasury.decode_toJson, Nonces.decode_toJson, map_ok, ok_bind] at filled
  cases filled
  cases h
  exact ⟨Ledger.owners_of_decode_toJson read, rfl⟩

/-- A wallet that was read can be read back, and has no registered code. -/
theorem storable_of_ofText {s : String} (h : ofText s = .ok w) :
    w.ledger.Storable ∧ w.stored = w := by
  have whole {index : Nat} {t : Tree} {draft draft' : Draft}
      (taken : draft.set index t = .ok draft')
      (kept : (∀ l ∈ draft.ledger, l.Storable) ∧
        ∀ t ∈ draft.treasury, Treasury.ofBalances t.balances = t) :
      (∀ l ∈ draft'.ledger, l.Storable) ∧
        ∀ t ∈ draft'.treasury, Treasury.ofBalances t.balances = t := by
    unfold Draft.set at taken
    split at taken
    · obtain ⟨ledger, read, rfl⟩ := exists_of_map_eq_ok taken
      refine ⟨?_, kept.2⟩
      rintro _ ⟨⟩
      exact Ledger.storable_of_decode read
    · obtain ⟨treasury, read, rfl⟩ := exists_of_map_eq_ok taken
      refine ⟨kept.1, ?_⟩
      rintro _ ⟨⟩
      obtain ⟨balances, h⟩ := exists_finish_of_record read
      obtain ⟨balances, _, rfl⟩ := exists_of_map_eq_ok h
      rfl
    · obtain ⟨nonces, _, rfl⟩ := exists_of_map_eq_ok taken
      exact kept
  obtain ⟨draft, ⟨ledger_ok, treasury_ok⟩, h⟩ :=
    exists_draft_of_record (by simp) whole (exists_of_decodeText h)
  obtain ⟨ledger, ledger_there, h⟩ := exists_of_bind_eq_ok h
  obtain ⟨treasury, treasury_there, h⟩ := exists_of_bind_eq_ok h
  cases h
  refine ⟨ledger_ok ledger (mem_of_need ledger_there), ?_⟩
  have bare := treasury_ok treasury (mem_of_need treasury_there)
  simp only [stored, bare]

end Wallet

end Quorum
