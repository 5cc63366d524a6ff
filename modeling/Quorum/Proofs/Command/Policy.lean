import Quorum.Proofs.Command.Undo
import Quorum.Proofs.Ledger.Threshold
import Quorum.Proofs.OwnerSet.Policy

/-!
# Policies that are told apart

A ledger is read, and a backup restored, only if an address agrees with the owners. That tells
policies apart, as far as the digests of what is hashed for them do, and no more than policies: the
order of the owners does not count.
-/

namespace Quorum

open Command (Failure Unfailing onLedger restoreBackup)
open Json (Tree refuse)
open Storage (fileText)

variable {env : Environment} {dataDir : Path} {d d' : Disk} {w b : Wallet} {index : UInt64}

/-! ### Ledgers that are read -/

/-- A record is what its draft makes up. -/
lemma Json.record_of_draft {δ α : Type} {s : Shape} {start draft : δ}
    {set : Nat → Tree → δ → Except Problem δ} {t : Tree} (finish : δ → Except Problem α)
    (gathered : record s start set .ok t = .ok draft) :
    record s start set finish t = finish draft := by
  cases t with
  | object members closed =>
    obtain ⟨_, taken, done⟩ := exists_of_bind_eq_ok gathered
    cases done
    rw [record, taken]
    rfl
  | array items closed =>
    obtain ⟨_, taken, done⟩ := exists_of_bind_eq_ok gathered
    cases done
    rw [record, taken]
    rfl
  | _ =>
    simp only [record, mismatch] at gathered
    split at gathered <;> cases gathered

namespace Ledger

variable {t : Tree} {owners : OwnerSet} {address : Address} {ts : List Transaction}
  {events : List EventRecord}

/-- The parts of a ledger that a text gives. Whether they belong together is not judged here. -/
def Gives (t : Tree) (owners : OwnerSet) (address : Address) (ts : List Transaction)
    (events : List EventRecord) : Prop :=
  Json.record shape {} Draft.set .ok t = .ok ⟨some owners, some address, some ts, events⟩

lemma Gives.decode_eq (h : Gives t owners address ts events) :
    decode t = match assemble owners address ts events with
      | .ok l => .ok l
      | .error c => refuse c.message :=
  Json.record_of_draft Draft.finish h

/-- The parts are read as a ledger if they belong together. -/
lemma Gives.decode_eq_ok_iff (h : Gives t owners address ts events) :
    decode t = .ok ⟨owners, ts, events⟩ ↔
      address = owners.walletAddress ∧ Valid ⟨owners, ts, events⟩ := by
  rw [h.decode_eq]
  constructor
  · intro read
    split at read
    · rename_i whole
      cases read
      exact ⟨(parts_of_assemble whole).2, valid_of_assemble whole⟩
    · cases read
  · rintro ⟨rfl, valid⟩
    have whole := assemble_eq_ok valid
    dsimp only [Ledger.address] at whole
    rw [whole]

/-- The address of other owners is refused. -/
lemma Gives.decode_of_foreign (h : Gives t owners address ts events)
    (foreign : address ≠ owners.walletAddress) :
    decode t = refuse (Corruption.foreignAddress address owners.walletAddress).message := by
  rw [h.decode_eq, assemble, if_pos foreign]

end Ledger

/-! ### Backups that are restored -/

namespace Command

/-- A backup of another wallet is not restored. -/
lemma restoreBackup_of_foreign {s : Workspace} {backup : Nat}
    (loaded : s.storage.loadBackup backup d = .ok b) (foreign : b.address ≠ s.wallet.address) :
    restoreBackup s backup d = (.error (.foreignBackup backup b.address), d) := by
  unfold restoreBackup
  rw [Attempt.disk_bind, loaded]
  refine (Attempt.ofExcept_ok_bind b _).trans ?_
  rw [if_pos foreign]
  rfl

/-- If no file operation fails, a backup is restored or refused, as its address is. -/
lemma Unfailing.restored_or_refused (works : Unfailing env dataDir d (.restore index))
    (tidy : d.Tidy) (free : Lock.IsFree env.processes dataDir d)
    (loads : ({ dataDir } : Storage).load d = .ok w)
    (loaded : ({ dataDir } : Storage).loadBackup index.toNat d = .ok b) :
    (b.address = w.address ∧
      ∃ lines, ((Command.restore index).run env dataDir d).1 = .ok lines) ∨
    (b.address ≠ w.address ∧ ((Command.restore index).run env dataDir d).1
      = .error (.foreignBackup index.toNat b.address)) := by
  by_cases same : b.address = w.address
  · obtain ⟨lines, _, _, _, _, run⟩ := works.exists_run tidy free loads loaded same
    exact .inl ⟨same, lines, congrArg Prod.fst run⟩
  · have run_eq : (Command.restore index).run env dataDir d
        = onLedger env dataDir true (fun s => restoreBackup s index.toNat) d := rfl
    refine .inr ⟨same, ?_⟩
    rcases onLedger_of_loads (fun s => restoreBackup s index.toNat) tidy free loads with
      ⟨cause, failed⟩ | ⟨cause, failed⟩ | ⟨d₁, opening, done⟩
    · exact absurd (run_eq ▸ failed) (works.saved cause)
    · exact absurd (run_eq ▸ failed) (works.opened cause)
    · have loaded := (opening.loadBackup_eq_ok_iff loads).mpr loaded
      let s : Workspace := ⟨w, { dataDir }, Workspace.keystoreOf dataDir, true⟩
      have refused : restoreBackup s index.toNat d₁ = _ := restoreBackup_of_foreign loaded same
      rw [run_eq, done, refused]

lemma Unfailing.of_refused {c : Command} {backup : Nat} {a : Address}
    (refused : (c.run env dataDir d).1 = .error (.foreignBackup backup a)) :
    Unfailing env dataDir d c where
  saved _ failed := by
    rw [refused] at failed
    cases failed
  opened _ failed := by
    rw [refused] at failed
    cases failed

end Command

/-! ### Both checks -/

namespace OwnerSet

/-- The bytes hashed for the address tell the policy, whatever the order of the owners, so that two
policies share an address only if their digests end alike. Up to that, and to the order of the
owners, a ledger is read only with the address of its policy, and a backup restored only in place of
a ledger of the same policy. -/
theorem address_tells_policy (s s' : OwnerSet) :
    (s.preimage = s'.preimage ↔ s.SamePolicy s') ∧
    (s.walletAddress = s'.walletAddress ↔
      s.SamePolicy s' ∨ Sha256.CollideAtEnd s.preimage s'.preimage) ∧
    (∀ t ts events, Ledger.Gives t s' s.walletAddress ts events →
      (Ledger.decode t = .ok ⟨s', ts, events⟩ ↔
        s.TakenFor s' ∧ Ledger.Valid ⟨s', ts, events⟩) ∧
      (¬ s.TakenFor s' → Ledger.decode t
        = refuse (Ledger.Corruption.foreignAddress s.walletAddress s'.walletAddress).message)) ∧
    ∀ env dataDir d w b (index : UInt64), d.Tidy → Lock.IsFree env.processes dataDir d →
      ({ dataDir } : Storage).load d = .ok w → w.ledger.owners = s →
      ({ dataDir } : Storage).loadBackup index.toNat d = .ok b → b.ledger.owners = s' →
      Unfailing env dataDir d (.restore index) →
      ((∃ lines, ((Command.restore index).run env dataDir d).1 = .ok lines) ↔ s.TakenFor s') ∧
      (((Command.restore index).run env dataDir d).1
        = .error (.foreignBackup index.toNat s'.walletAddress) ↔ ¬ s.TakenFor s') := by
  refine ⟨preimage_inj, walletAddress_inj, fun t ts events gives => ⟨?_, fun apart => ?_⟩, ?_⟩
  · rw [gives.decode_eq_ok_iff, walletAddress_inj]
  · exact gives.decode_of_foreign fun same => apart (walletAddress_inj.mp same)
  · rintro env dataDir d w b index tidy free loads rfl loaded rfl works
    have taken : b.address = w.address ↔ w.ledger.owners.TakenFor b.ledger.owners :=
      eq_comm.trans walletAddress_inj
    rw [← taken]
    rcases works.restored_or_refused tidy free loads loaded with
      ⟨same, lines, restored⟩ | ⟨foreign, refused⟩
    · refine ⟨iff_of_true ⟨lines, restored⟩ same, iff_of_false ?_ (not_not.mpr same)⟩
      rw [restored]
      nofun
    · refine ⟨iff_of_false ?_ foreign, iff_of_true refused foreign⟩
      rw [refused]
      nofun

/-! ### Another order and another threshold -/

/-- The policy of the couple, with its owners named the other way round. -/
def coupleSwapped : OwnerSet :=
  { Ledger.couple with
    owners := Ledger.couple.owners.reverse
    nodup := by decide
    required_le := by decide }

/-- The couple's owners, each of whom can act alone. -/
def eitherOfCouple : OwnerSet :=
  { sole .zero with
    owners := Ledger.couple.owners
    nodup := Ledger.couple.nodup
    required_le := by decide }

lemma takenFor_coupleSwapped : Ledger.couple.TakenFor coupleSwapped :=
  .inl ⟨rfl, .swap _ _ []⟩

lemma not_takenFor_eitherOfCouple : ¬ Ledger.couple.TakenFor eitherOfCouple := by
  have sorted : sortAddresses Ledger.couple.owners = Ledger.couple.owners :=
    List.mergeSort_of_pairwise (by decide)
  rintro (⟨required, _⟩ | ⟨_, same⟩)
  · exact absurd required (by decide)
  · have owners_eq : eitherOfCouple.owners = Ledger.couple.owners := rfl
    rw [preimage, preimage, owners_eq, sorted] at same
    exact absurd same (by decide +kernel)

end OwnerSet

open Ledger (couple)
open OwnerSet (coupleSwapped eitherOfCouple)

/-- A ledger text without transactions, in which owners stand beside the address of others. -/
def bareLedger (owners others : OwnerSet) : Json.Value :=
  .object [("owners", owners.toJson), ("address", others.walletAddress.toJson),
    ("transactions", .array []), ("events", .array [])]

lemma gives_bareLedger (owners others : OwnerSet) :
    Ledger.Gives (bareLedger owners others).tree owners others.walletAddress [] [] := by
  refine (Json.record_tree_eq_ok_iff rfl (by decide)).mpr ⟨_, ?_, rfl⟩
  simp only [List.map_cons, List.map_nil, Json.fill, Ledger.Draft.set, OwnerSet.decode_toJson,
    Address.decode_toJson]
  rfl

namespace Command

/-- The disk of a wallet that has two backups, the latest one of the other threshold and one of the
other order. -/
def sharedDisk : Disk :=
  savedTwice (fileText (.create couple)) (fileText (.create eitherOfCouple))
    (fileText (.create coupleSwapped))

lemma storable_create (owners : OwnerSet) : (Wallet.create owners).ledger.Storable :=
  Ledger.storable_of_counts (Ledger.valid_create _) (Ledger.counts_create _) (Nat.zero_le _)
    (Nat.zero_le _)

lemma load_sharedDisk :
    ({ dataDir := "data" } : Storage).load sharedDisk = .ok (.create couple) :=
  Storage.load_of_fileText rfl (storable_create _)

lemma loadBackup_latest_sharedDisk :
    ({ dataDir := "data" } : Storage).loadBackup (0 : UInt64).toNat sharedDisk
      = .ok (.create eitherOfCouple) :=
  Storage.loadBackup_of_fileText (read_latest_savedTwice _ _ _) (storable_create _)

lemma loadBackup_oldest_sharedDisk :
    ({ dataDir := "data" } : Storage).loadBackup (1 : UInt64).toNat sharedDisk
      = .ok (.create coupleSwapped) :=
  Storage.loadBackup_of_fileText (read_oldest_savedTwice _ _ _) (storable_create _)

lemma isFree_sharedDisk : Lock.IsFree atWork.processes "data" sharedDisk := by
  intro pid held
  cases (show none = some pid from held)

lemma unfailing_latest : Unfailing atWork "data" sharedDisk (.restore 0) := by
  have foreign : (Wallet.create eitherOfCouple).address ≠ (Wallet.create couple).address :=
    fun same => OwnerSet.not_takenFor_eitherOfCouple (OwnerSet.walletAddress_inj.mp same.symm)
  obtain ⟨loaded, run⟩ := run_restore_of_keys tidy_savedTwice load_sharedDisk
    loadBackup_latest_sharedDisk (acquire_savedTwice _ _ _) (makeKeys_heldTwice _ _ _)
  rw [restoreBackup_of_foreign loaded foreign] at run
  exact .of_refused (congrArg Prod.fst run)

lemma unfailing_oldest : Unfailing atWork "data" sharedDisk (.restore 1) := by
  have same : (Wallet.create coupleSwapped).address = (Wallet.create couple).address :=
    (OwnerSet.walletAddress_inj.mpr OwnerSet.takenFor_coupleSwapped).symm
  obtain ⟨lines, run⟩ := run_restore_of_saved tidy_savedTwice load_sharedDisk
    loadBackup_oldest_sharedDisk same (acquire_savedTwice _ _ _) (makeKeys_heldTwice _ _ _)
    (Prod.ext (save_lockedTwice _ _ _ _) rfl)
  exact .of_run run

end Command

open Command (atWork sharedDisk)

/-- The owners in another order are accepted with the same address, in a ledger text and as a backup.
The same owners with another threshold are refused in both places. -/
theorem other_order_accepted : sharedDisk.Tidy ∧ Lock.IsFree atWork.processes "data" sharedDisk ∧
    Ledger.decode (bareLedger coupleSwapped couple).tree = .ok ⟨coupleSwapped, [], []⟩ ∧
    (∃ message, Ledger.decode (bareLedger eitherOfCouple couple).tree = refuse message) ∧
    (∃ lines, ((Command.restore 1).run atWork "data" sharedDisk).1 = .ok lines) ∧
    ((Command.restore 0).run atWork "data" sharedDisk).1
      = .error (.foreignBackup 0 eitherOfCouple.walletAddress) := by
  have tidy : sharedDisk.Tidy := Command.tidy_savedTwice
  have free := Command.isFree_sharedDisk
  obtain ⟨_, _, read, restored⟩ := OwnerSet.address_tells_policy couple coupleSwapped
  obtain ⟨_, _, unread, refused⟩ := OwnerSet.address_tells_policy couple eitherOfCouple
  have taken := OwnerSet.takenFor_coupleSwapped
  have apart := OwnerSet.not_takenFor_eitherOfCouple
  refine ⟨tidy, free, ?_, ⟨_, (unread _ _ _ (gives_bareLedger _ _)).2 apart⟩, ?_, ?_⟩
  · exact (read _ _ _ (gives_bareLedger _ _)).1.mpr ⟨taken, Ledger.valid_create _⟩
  · exact (restored _ _ _ _ _ _ tidy free Command.load_sharedDisk rfl
      Command.loadBackup_oldest_sharedDisk rfl Command.unfailing_oldest).1.mpr taken
  · exact (refused _ _ _ _ _ _ tidy free Command.load_sharedDisk rfl
      Command.loadBackup_latest_sharedDisk rfl Command.unfailing_latest).2.mpr apart

end Quorum
