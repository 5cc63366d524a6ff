import Quorum.Proofs.Command.Refinement
import Quorum.Proofs.Disk.Entry
import Quorum.Proofs.Server.Durability
import Quorum.Proofs.Storage.History

/-!
# Backups that are put in place

Restoring replaces the whole wallet, and with it the registry of nonces. So what a server turns away
after that is told by the backup: nothing passes twice as long as the backup knows of nonces that
are as great as those before, and what it does not know of passes again.
-/

namespace Quorum

open Disk (Spares)
open Server (Kept Life Order Visit signatory signedOrder newServer newDisk servedOnce gift)
open Storage (fileText housed)

variable {env : Environment} {dataDir : Path} {d d' e e' : Disk} {w b : Wallet} {index : UInt64}
  {i : Nat}

/-! ### What is restored -/

/-- The same backups can be read if only the lock file may differ. -/
lemma Disk.Spares.read_backup_eq_ok_iff (h : Spares Lock.fileName d d') {old text : String}
    (read : d.read ({ dataDir } : Storage).ledgerPath = .ok old) :
    d'.read (({ dataDir } : Storage).backupPath i) = .ok text ↔
      d.read (({ dataDir } : Storage).backupPath i) = .ok text := by
  obtain ⟨n, base⟩ := (housed dataDir).exists_base (Storage.hasLedger_of_read read)
  have plain := Storage.backupName_plain (housed dataDir).plain i
  rw [(housed dataDir).backupPath_eq]
  exact h.read_join_eq_ok_iff base plain (Storage.backupName_ne_lock i)

/-- The same backups can be loaded. -/
lemma Disk.Spares.loadBackup_eq_ok_iff (h : Spares Lock.fileName d d')
    (loads : ({ dataDir } : Storage).load d = .ok w) :
    ({ dataDir } : Storage).loadBackup i d' = .ok b ↔
      ({ dataDir } : Storage).loadBackup i d = .ok b := by
  obtain ⟨_, there, _⟩ := Storage.exists_of_load loads
  have of_text {e : Disk} {text : String}
      (read : e.read (({ dataDir } : Storage).backupPath i) = .ok text)
      (accepted : Wallet.ofText text = .ok b) :
      ({ dataDir } : Storage).loadBackup i e = .ok b := by
    rw [Storage.loadBackup_of_read read, accepted]
    rfl
  constructor
  · intro loaded
    obtain ⟨text, read, accepted⟩ := Storage.exists_of_loadBackup loaded
    exact of_text ((h.read_backup_eq_ok_iff there).mp read) accepted
  · intro loaded
    obtain ⟨text, read, accepted⟩ := Storage.exists_of_loadBackup loaded
    exact of_text ((h.read_backup_eq_ok_iff there).mpr read) accepted

namespace Command

/-- After a backup was restored it is the wallet that is loaded, as it was read. -/
lemma exists_of_restore (tidy : d.Tidy) (loads : ({ dataDir } : Storage).load d = .ok w)
    {lines : List String} (restored : ((Command.restore index).run env dataDir d).1 = .ok lines) :
    ∃ b, ({ dataDir } : Storage).loadBackup index.toNat d = .ok b ∧ b.address = w.address ∧
      ((Command.restore index).run env dataDir d).2.Tidy ∧
      ({ dataDir } : Storage).load ((Command.restore index).run env dataDir d).2 = .ok b := by
  have run_eq : (Command.restore index).run env dataDir d
      = onLedger env dataDir true (fun s => restoreBackup s index.toNat) d := rfl
  rw [run_eq] at restored ⊢
  rcases onLedger_cases env dataDir (fun s => restoreBackup s index.toNat) tidy with
    ⟨e, d', _, _, ended⟩ | ⟨s, d₁, spares, opened, wallet_eq, ended⟩
  · rw [ended] at restored
    cases restored
  · rw [ended] at restored ⊢
    obtain rfl := wallet_eq w loads
    rcases restoreBackup_cases opened.writable index.toNat d₁ with
      ⟨e, failed⟩ | ⟨_, cause, d₂, _, failed⟩ | ⟨b, _, d₂, loaded, same, saved, done⟩
    · rw [failed] at restored
      cases restored
    · rw [failed] at restored
      cases restored
    · rw [opened.storage_eq] at loaded saved
      obtain ⟨text, _, accepted⟩ := Storage.exists_of_loadBackup loaded
      have bare := Wallet.stored_eq_iff.mp (Wallet.storable_of_ofText accepted).2
      obtain ⟨storable, _⟩ := Wallet.storable_of_ofText accepted
      obtain ⟨read, tidy⟩ := Storage.read_of_saved spares.tidy saved
      have reads : ({ dataDir } : Storage).load d₂ = .ok b := by
        rw [Storage.load_of_read read, Wallet.ofText_fileText, Wallet.decode_toJson storable,
          Wallet.stored_eq_iff.mpr bare]
        rfl
      have released := Lock.spares_release dataDir tidy
      rw [done]
      exact ⟨b, (spares.loadBackup_eq_ok_iff loads).mp loaded, same, released.tidy,
        released.load_eq_ok reads⟩

end Command

/-! ### Nonces before and after -/

/-- A registry knows of a nonce of an account that is as great as the one in another registry. -/
def Nonces.Covers (n old : Nonces) (a : Address) : Prop :=
  ∀ last, old.last? a = some last → ∃ last', n.last? a = some last' ∧ last ≤ last'

namespace Server

variable {s s' r r' : Server} {visits visits' : List Visit} {a : Address}

/-- What passed before the end of a life is no greater than what is noted then. -/
lemma Life.le_of_mem (life : Life s d visits s' d') (kept : Kept s d) {nonce : UInt64}
    (mem : nonce ∈ visits.filterMap (·.nonceFrom? a)) :
    ∃ last, s'.wallet.nonces.last? a = some last ∧ nonce ≤ last := by
  have grow := life.pairwise_nonces kept a
  have last_eq := life.getLast?_nonces kept a
  have mem := List.mem_append_right (s.wallet.nonces.last? a).toList mem
  generalize (s.wallet.nonces.last? a).toList ++ visits.filterMap (·.nonceFrom? a) = nonces
    at grow last_eq mem
  cases noted : s'.wallet.nonces.last? a with
  | none =>
    rw [noted, List.getLast?_eq_none_iff] at last_eq
    rw [last_eq] at mem
    cases mem
  | some last =>
    rw [noted, List.getLast?_eq_some_iff] at last_eq
    obtain ⟨front, rfl⟩ := last_eq
    refine ⟨last, rfl, ?_⟩
    rcases List.mem_append.mp mem with before | here
    · exact UInt64.le_of_lt ((List.pairwise_append.mp grow).2.2 nonce before last
        (List.mem_singleton_self last))
    · exact List.mem_singleton.mp here ▸ UInt64.le_refl last

/-- Over two lives, the nonces of an owner grow if the second one starts where the first one ended,
or further on. -/
lemma Life.pairwise_append (life : Life s d visits s' d') (kept : Kept s d)
    (life' : Life r e visits' r' e') (kept' : Kept r e)
    (covers : r.wallet.nonces.Covers s'.wallet.nonces a) :
    ((visits ++ visits').filterMap (·.nonceFrom? a)).Pairwise (· < ·) := by
  rw [List.filterMap_append, List.pairwise_append]
  have grow' := List.pairwise_append.mp (life'.pairwise_nonces kept' a)
  refine ⟨(List.pairwise_append.mp (life.pairwise_nonces kept a)).2.1, grow'.2.1, ?_⟩
  intro nonce before nonce' after
  obtain ⟨last, noted, le⟩ := life.le_of_mem kept before
  obtain ⟨last', noted', le'⟩ := covers last noted
  have lt := grow'.2.2 last' (by simp [noted']) nonce' after
  exact UInt64.lt_of_le_of_lt (UInt64.le_trans le le') lt

end Server

namespace Command

/-- A backup that is restored replaces the wallet with its registry of nonces: an order passes after
that if its nonce is above the one in the backup, whatever passed before. So over the life of a
server before, which ended with the wallet that is replaced, and one after, the nonces of an owner
grow if the backup covers the nonce that was noted for him; and if it does so for all, no signed
request passes twice. -/
theorem restore_resumes_backup (tidy : d.Tidy) (loads : ({ dataDir } : Storage).load d = .ok w)
    {lines : List String} (restored : ((Command.restore index).run env dataDir d).1 = .ok lines) :
    ∃ b, ({ dataDir } : Storage).loadBackup index.toNat d = .ok b ∧ b.address = w.address ∧
      ({ dataDir } : Storage).load ((Command.restore index).run env dataDir d).2 = .ok b ∧
      (∀ (o : Order) a, o.caller? b = some a ↔ o.signer = .ok a ∧
        a ∈ b.ledger.owners.owners ∧ o.goesAfter (b.nonces.last? a) = true) ∧
      ∀ d₀ s₀ visits s s₁ visits' s₂ d₂, d₀.Tidy →
        Server.start { dataDir } d₀ = .ok s₀ → Life s₀ d₀ visits s d →
        Server.start { dataDir } ((Command.restore index).run env dataDir d).2 = .ok s₁ →
        Life s₁ ((Command.restore index).run env dataDir d).2 visits' s₂ d₂ →
        (∀ a, b.nonces.Covers w.nonces a →
          ((visits ++ visits').filterMap (·.nonceFrom? a)).Pairwise (· < ·)) ∧
        ((∀ a, b.nonces.Covers w.nonces a) →
          ((visits ++ visits').filterMap fun v => v.accepted?.map (·.2.keyAndNonce)).Nodup) := by
  obtain ⟨b, loaded, same, tidy', loads'⟩ := exists_of_restore tidy loads restored
  refine ⟨b, loaded, same, loads', fun o a => Order.caller?_eq_some_iff_goesAfter, ?_⟩
  intro d₀ s₀ visits s s₁ visits' s₂ d₂ tidy₀ started life started' life'
  have kept := Server.kept_of_start tidy₀ started
  have kept' := Server.kept_of_start tidy' started'
  -- the wallet that is replaced has the nonces of the server that was stopped
  have nonces_eq : w.nonces = s.wallet.nonces := by
    have storage_eq : s.storage = { dataDir } := by
      rw [life.storage_eq, (Server.exists_of_start started).1]
    have restarted : Server.start s.storage d = .ok ⟨w, { dataDir }⟩ := by
      rw [storage_eq, Server.start, loads]
      rfl
    exact ((life.kept kept).eq_of_start restarted).2
  have restored_eq : s₁.wallet = b := by
    obtain ⟨_, loaded'⟩ := Server.exists_of_start started'
    rw [loads'] at loaded'
    exact (Except.ok.inj loaded').symm
  have grow (a : Address) (covers : b.nonces.Covers w.nonces a) :
      ((visits ++ visits').filterMap (·.nonceFrom? a)).Pairwise (· < ·) := by
    rw [← restored_eq, nonces_eq] at covers
    exact life.pairwise_append kept life' kept' covers
  exact ⟨grow, fun covers => Server.nodup_keyAndNonce fun a => grow a (covers a)⟩

/-! ### A backup that knows of an order, and one that does not -/

/-- The disk of the new wallet after another text was saved there. -/
def savedOnce (text first : String) : Disk where
  workDir := Disk.top
  entries := [(⟨1, "ledger.json"⟩, .file text), (⟨1, "ledger.json.backup.0"⟩, .file first),
    (⟨Disk.top, "data"⟩, .directory 1)]

/-- The same disk after one more text was saved there. -/
def savedTwice (text second first : String) : Disk where
  workDir := Disk.top
  entries := [(⟨1, "ledger.json"⟩, .file text), (⟨1, "ledger.json.backup.0"⟩, .file second),
    (⟨1, "ledger.json.backup.1"⟩, .file first), (⟨Disk.top, "data"⟩, .directory 1)]

variable (text second first : String)

lemma saveWith_newDisk (w : Wallet) : (newServer.storage.saveWith none w newDisk).2
    = savedOnce (fileText w) (fileText newServer.wallet) := by
  rw [← @String.empty_append (fileText w)]
  rfl

lemma saveWith_savedOnce (w : Wallet) :
    newServer.storage.saveWith none w (savedOnce text first)
      = (.ok (), savedTwice (fileText w) text first) := by
  rw [← @String.empty_append (fileText w)]
  rfl

lemma read_latest_savedTwice : (savedTwice text second first).read
    (({ dataDir := "data" } : Storage).backupPath 0) = .ok second := by rfl

lemma read_oldest_savedTwice : (savedTwice text second first).read
    (({ dataDir := "data" } : Storage).backupPath 1) = .ok first := by rfl

/-- The same disk with the lock held. -/
def heldTwice : Disk :=
  (savedTwice text second first).put ⟨1, ".lock"⟩ (.file "1")

/-- The same disk with the lock held, and with room for keys. -/
def lockedTwice : Disk :=
  (heldTwice text second first).put ⟨1, "keys"⟩ (.directory 2)

lemma acquire_savedTwice : Lock.acquire atWork.processes "data" (savedTwice text second first)
    = (.ok (), heldTwice text second first) := by rfl

lemma makeKeys_heldTwice :
    makeDirectories (Workspace.keystoreOf "data").directory (heldTwice text second first)
      = (.ok (), lockedTwice text second first) := by rfl

lemma save_lockedTwice (w : Wallet) :
    (({ dataDir := "data" } : Storage).save w (lockedTwice text second first)).1 = .ok () := by rfl

variable {text second first}

lemma tidy_savedTwice : (savedTwice text second first).Tidy := by
  simp [Disk.Tidy, savedTwice]

/-- A backup is judged on the wallet that was loaded if the lock can be taken and the directory of
the keys is there. -/
lemma run_restore_of_keys {d₁ d₂ : Disk} (tidy : d.Tidy)
    (loads : ({ dataDir } : Storage).load d = .ok w)
    (loaded : ({ dataDir } : Storage).loadBackup index.toNat d = .ok b)
    (taken : Lock.acquire env.processes dataDir d = (.ok (), d₁))
    (keys : makeDirectories (Workspace.keystoreOf dataDir).directory d₁ = (.ok (), d₂)) :
    let s : Workspace := ⟨w, { dataDir }, Workspace.keystoreOf dataDir, true⟩
    s.storage.loadBackup index.toNat d₂ = .ok b ∧
      (Command.restore index).run env dataDir d = ((restoreBackup s index.toNat d₂).1,
        Lock.release dataDir (restoreBackup s index.toNat d₂).2) := by
  have taking := Lock.spares_acquire env.processes dataDir tidy
  rw [taken] at taking
  have making : Spares Lock.fileName d₁ _ :=
    spares_makeDirectories taking.tidy (Workspace.keystoreOf dataDir).directory
  rw [keys] at making
  have opened := Workspace.load_of_keys (taking.load_eq_ok loads) keys
  have run_eq : (Command.restore index).run env dataDir d
      = onLedger env dataDir true (fun s => restoreBackup s index.toNat) d := rfl
  refine ⟨((taking.trans making).loadBackup_eq_ok_iff loads).mpr loaded, ?_⟩
  rw [run_eq, onLedger, if_pos rfl, Lock.whileHeld_eq, taken]
  dsimp only
  rw [Attempt.bind_ok opened]

/-- A backup of the same wallet is restored if the wallet can be saved then. -/
lemma run_restore_of_saved {d₁ d₂ d₃ : Disk} (tidy : d.Tidy)
    (loads : ({ dataDir } : Storage).load d = .ok w)
    (loaded : ({ dataDir } : Storage).loadBackup index.toNat d = .ok b)
    (same : b.address = w.address)
    (taken : Lock.acquire env.processes dataDir d = (.ok (), d₁))
    (keys : makeDirectories (Workspace.keystoreOf dataDir).directory d₁ = (.ok (), d₂))
    (saved : ({ dataDir } : Storage).save b d₂ = (.ok (), d₃)) :
    ∃ lines, (Command.restore index).run env dataDir d = (.ok lines, Lock.release dataDir d₃) := by
  obtain ⟨loaded, run⟩ := run_restore_of_keys tidy loads loaded taken keys
  let s : Workspace := ⟨w, { dataDir }, Workspace.keystoreOf dataDir, true⟩
  have writable : s.writable = true := rfl
  have restored : restoreBackup s index.toNat d₂ = _ := restoreBackup_eq loaded same
  rw [Attempt.bind_ok (Workspace.save_of_saved writable saved)] at restored
  rw [run, restored]
  exact ⟨_, rfl⟩

/-- Any backup of the same wallet can be restored there. -/
lemma run_restore (loads : ({ dataDir := "data" } : Storage).load (savedTwice text second first)
      = .ok w)
    (loaded : ({ dataDir := "data" } : Storage).loadBackup index.toNat
      (savedTwice text second first) = .ok b) (same : b.address = w.address) :
    ∃ lines, ((Command.restore index).run atWork "data" (savedTwice text second first)).1
      = .ok lines := by
  obtain ⟨lines, restored⟩ := run_restore_of_saved tidy_savedTwice loads loaded same
    (acquire_savedTwice text second first) (makeKeys_heldTwice text second first)
    (Prod.ext (save_lockedTwice text second first b) rfl)
  exact ⟨lines, congrArg Prod.fst restored⟩

/-- What becomes of the new server and its disk with the order and a deposit after it. -/
def gifted : Server × Disk :=
  servedOnce.1.serve none .epoch servedOnce.2 gift

lemma wallet_gifted :
    gifted.1.wallet = servedOnce.1.wallet.deposit .epoch signatory ⟨9, by decide⟩ := rfl

lemma servedOnce_eq : servedOnce.1.storage = newServer.storage ∧
    servedOnce.2 = savedOnce (fileText servedOnce.1.wallet) (fileText newServer.wallet) := by
  refine ⟨Server.storage_serve, ?_⟩
  have taken : (Server.Task.order signedOrder).Taken newServer.wallet := by
    rw [Server.Task.Taken, Server.caller?_newServer]
    exact Option.some_ne_none _
  rw [← saveWith_newDisk]
  exact Server.disk_serve_of_taken taken

lemma ledger_gifted : gifted.1.wallet.ledger
    = newServer.wallet.ledger.recordDeposit .epoch signatory ⟨9, by decide⟩ := by
  rw [wallet_gifted, Wallet.deposit, Server.ledger_servedOnce]

lemma address_gifted : gifted.1.wallet.address = newServer.wallet.address := by
  rw [Wallet.address, ledger_gifted]
  rfl

lemma nonces_gifted : gifted.1.wallet.nonces = servedOnce.1.wallet.nonces := by
  have kept (w : Wallet) (source : Address) (amount : Amount) :
      (w.deposit .epoch source amount).nonces = w.nonces := rfl
  rw [wallet_gifted, kept]

/-- What the server took up. -/
def giftedVisits : List Visit :=
  [⟨newServer, .order signedOrder⟩, ⟨servedOnce.1, gift⟩]

lemma life_gifted : Life newServer newDisk giftedVisits gifted.1 gifted.2 := by
  obtain ⟨storage_eq, disk_eq⟩ := servedOnce_eq
  refine .serves (fun _ => Server.saveWith_newDisk _) (.serves (fun _ => ?_) .rests)
  show (servedOnce.1.storage.saveWith none gifted.1.wallet servedOnce.2).1 = .ok ()
  rw [storage_eq, disk_eq, saveWith_savedOnce]

lemma disk_gifted : gifted.2 = savedTwice (fileText gifted.1.wallet)
    (fileText servedOnce.1.wallet) (fileText newServer.wallet) := by
  obtain ⟨storage_eq, disk_eq⟩ := servedOnce_eq
  have taken : gift.Taken servedOnce.1.wallet := by
    show (⟨9, by decide⟩ : Amount) ≠ 0
    decide
  have served : gifted.2 = (servedOnce.1.storage.saveWith none gifted.1.wallet servedOnce.2).2 :=
    Server.disk_serve_of_taken taken
  rw [served, storage_eq, disk_eq, saveWith_savedOnce]

lemma load_gifted :
    ({ dataDir := "data" } : Storage).load gifted.2 = .ok gifted.1.wallet.stored := by
  have kept := life_gifted.kept (Server.kept_of_start tidy_newDisk Server.start_newDisk)
  have started := kept.start_eq_ok (by rw [ledger_gifted]; decide) (by rw [ledger_gifted]; decide)
  obtain ⟨_, loads⟩ := Server.exists_of_start started
  rwa [life_gifted.storage_eq] at loads

/-- The latest backup knows of the order. -/
lemma loadBackup_latest :
    ({ dataDir := "data" } : Storage).loadBackup 0 gifted.2 = .ok servedOnce.1.wallet.stored := by
  have kept : Kept servedOnce.1 servedOnce.2 :=
    (Server.kept_of_start tidy_newDisk Server.start_newDisk).serve fun _ =>
      Server.saveWith_newDisk _
  have storable : servedOnce.1.wallet.ledger.Storable :=
    Ledger.storable_of_counts kept.valid kept.counts (by rw [Server.ledger_servedOnce]; decide)
      (by rw [Server.ledger_servedOnce]; decide)
  rw [disk_gifted]
  exact Storage.loadBackup_of_fileText (read_latest_savedTwice _ _ _) storable

/-- The one before does not. -/
lemma loadBackup_oldest :
    ({ dataDir := "data" } : Storage).loadBackup 1 gifted.2 = .ok newServer.wallet := by
  have storable : newServer.wallet.ledger.Storable :=
    Ledger.storable_of_counts (Ledger.valid_create _) (Ledger.counts_create _) (by decide)
      (by decide)
  rw [disk_gifted]
  exact Storage.loadBackup_of_fileText (read_oldest_savedTwice _ _ _) storable

lemma exists_run_restore (index : UInt64) {b : Wallet}
    (loaded : ({ dataDir := "data" } : Storage).loadBackup index.toNat gifted.2 = .ok b)
    (same : b.address = newServer.wallet.address) :
    ∃ lines, ((Command.restore index).run atWork "data" gifted.2).1 = .ok lines := by
  have loads := load_gifted
  have same := same.trans (address_gifted.symm.trans (Wallet.address_stored _).symm)
  rw [disk_gifted] at loads loaded ⊢
  exact run_restore loads loaded same

/-- After the backup that knows of the order was restored, the order is turned away. -/
theorem restored_backup_covers : newDisk.Tidy ∧ gifted.2.Tidy ∧ ∃ lines b,
    ((Command.restore 0).run atWork "data" gifted.2).1 = .ok lines ∧
    ({ dataDir := "data" } : Storage).load ((Command.restore 0).run atWork "data" gifted.2).2
      = .ok b ∧
    (∀ a, b.nonces.Covers gifted.1.wallet.stored.nonces a) ∧
    signedOrder.caller? b = none ∧
    ∀ visits s d, Life ⟨b, { dataDir := "data" }⟩
        ((Command.restore 0).run atWork "data" gifted.2).2 visits s d →
      ((giftedVisits ++ visits).filterMap fun v => v.accepted?.map (·.2.keyAndNonce)).Nodup := by
  have kept := life_gifted.kept (Server.kept_of_start tidy_newDisk Server.start_newDisk)
  have address_eq : servedOnce.1.wallet.stored.address = newServer.wallet.address := by
    rw [Wallet.address_stored, Wallet.address, Server.ledger_servedOnce]
    rfl
  obtain ⟨lines, restored⟩ := exists_run_restore 0 loadBackup_latest address_eq
  obtain ⟨b, loaded, _, loads, passes_iff, protects⟩ :=
    restore_resumes_backup kept.tidy load_gifted restored
  have nonces_eq : b.nonces = servedOnce.1.wallet.nonces := by
    have same : b = servedOnce.1.wallet.stored :=
      Except.ok.inj (loaded.symm.trans loadBackup_latest)
    rw [same, Wallet.nonces_stored]
  have covers (a : Address) : b.nonces.Covers gifted.1.wallet.stored.nonces a := by
    intro last noted
    rw [Wallet.nonces_stored, nonces_gifted, ← nonces_eq] at noted
    exact ⟨last, noted, UInt64.le_refl last⟩
  refine ⟨tidy_newDisk, kept.tidy, lines, b, restored, loads, covers, ?_, fun visits s d life => ?_⟩
  · refine Option.eq_none_iff_forall_ne_some.mpr fun a passes => ?_
    obtain ⟨signed, _, after⟩ := (passes_iff signedOrder a).mp passes
    rw [Server.signer_signedOrder] at signed
    cases signed
    rw [nonces_eq, Server.last?_servedOnce] at after
    cases after
  · have started : Server.start { dataDir := "data" }
        ((Command.restore 0).run atWork "data" gifted.2).2 = .ok ⟨b, { dataDir := "data" }⟩ := by
      rw [Server.start, loads]
      rfl
    exact (protects _ _ _ _ _ _ _ _ tidy_newDisk Server.start_newDisk life_gifted started life).2
      covers

/-- After the one before it was restored, the order passes a second time. -/
theorem restore_reopens_replay : ∃ lines b,
    Life newServer newDisk giftedVisits gifted.1 gifted.2 ∧
    (Visit.mk newServer (.order signedOrder)).nonceFrom? signatory = some 1 ∧
    ({ dataDir := "data" } : Storage).load gifted.2 = .ok gifted.1.wallet.stored ∧
    gifted.1.wallet.stored.nonces.last? signatory = some 1 ∧
    ((Command.restore 1).run atWork "data" gifted.2).1 = .ok lines ∧
    ({ dataDir := "data" } : Storage).load ((Command.restore 1).run atWork "data" gifted.2).2
      = .ok b ∧
    b.nonces.last? signatory = none ∧ signedOrder.caller? b = some signatory := by
  have kept := life_gifted.kept (Server.kept_of_start tidy_newDisk Server.start_newDisk)
  have passed : (Visit.mk newServer (.order signedOrder)).nonceFrom? signatory = some 1 :=
    Visit.nonceFrom?_eq_some_iff.mpr
      ⟨signedOrder, Visit.accepted?_eq_some_iff.mpr ⟨rfl, Server.caller?_newServer⟩, rfl⟩
  have noted : gifted.1.wallet.stored.nonces.last? signatory = some 1 := by
    rw [Wallet.nonces_stored, nonces_gifted, Server.last?_servedOnce]
  obtain ⟨lines, restored⟩ := exists_run_restore 1 loadBackup_oldest rfl
  obtain ⟨b, loaded, _, _, loads⟩ := exists_of_restore kept.tidy load_gifted restored
  obtain rfl : newServer.wallet = b := Except.ok.inj (loadBackup_oldest.symm.trans loaded)
  exact ⟨lines, _, life_gifted, passed, load_gifted, noted, restored, loads, rfl,
    Server.caller?_newServer⟩

end Command

end Quorum
