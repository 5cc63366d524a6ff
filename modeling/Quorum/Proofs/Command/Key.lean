import Quorum.Proofs.Command.Refinement

/-!
# Commands and the keys they need

An owner's command leaves all files alone unless a key is loaded for the owner. Whose key that is,
is told by the key file alone: on a disk where only keystores wrote key files, it is the owner's,
and otherwise it may be anybody's.
-/

namespace Quorum

open Command (Failure)
open Disk (Spares)
open Keystore (WellNamed keyName)
open Server (newDisk newServer signatory)
open Workspace (keystoreOf)

variable {env : Environment} {dataDir : Path} {d d' d'' : Disk} {c : Command} {s : Workspace}
  {a : Address} {key : OwnerKey}

/-! ### Key files that stay -/

/-- The disk is tidy, and all key files are as they were. -/
structure KeysKept (d d' : Disk) : Prop where
  tidy : d'.Tidy
  files : ∀ s a, s.name = keyName a → d'.file? s = d.file? s

namespace KeysKept

lemma refl (tidy : d.Tidy) : KeysKept d d :=
  ⟨tidy, fun _ _ _ => rfl⟩

lemma trans (h : KeysKept d d') (h' : KeysKept d' d'') : KeysKept d d'' where
  tidy := h'.tidy
  files s a named := (h'.files s a named).trans (h.files s a named)

lemma of_spares (h : Spares Lock.fileName d d') : KeysKept d d' where
  tidy := h.tidy
  files s a named := h.file?_eq s (named ▸ Keystore.keyName_ne a (by decide))

lemma of_save (tidy : d.Tidy) {w : Wallet} {r : Except Storage.Error Unit}
    (saved : ({ dataDir } : Storage).save w d = (r, d')) : KeysKept d d' := by
  obtain ⟨tidy, files⟩ := Storage.file?_of_save dataDir w tidy
  rw [saved] at tidy files
  refine ⟨tidy, fun s a named => files s ?_⟩
  rw [named, Keystore.toList_keyName]
  simp

lemma release (h : KeysKept d d') : KeysKept d (Lock.release dataDir d') :=
  h.trans (.of_spares (Lock.spares_release dataDir h.tidy))

lemma wellNamed (h : KeysKept d d') (named : WellNamed d) : WellNamed d' :=
  named.of_files h.files

end KeysKept

namespace Command

/-! ### What commands do to key files -/

/-- Work on the ledger keeps all keys if it does so by itself. -/
lemma keysKept_onLedger {work : Workspace → Attempt Failure (List String)} (tidy : d.Tidy)
    (keeps : ∀ s d, Workspace.Opened dataDir s → d.Tidy → KeysKept d (work s d).2) :
    KeysKept d (onLedger env dataDir true work d).2 := by
  rcases onLedger_cases env dataDir work tidy with
    ⟨_, d', spares, _, ended⟩ | ⟨s, d₁, spares, opened, _, ended⟩
  · rw [ended]
    exact .of_spares spares
  · rw [ended]
    exact ((KeysKept.of_spares spares).trans (keeps s d₁ opened spares.tidy)).release

/-- So does looking at the ledger. -/
lemma keysKept_inspection (env : Environment)
    {work : Workspace → Attempt Failure (List String)} (tidy : d.Tidy)
    (looks : ∀ s d, (work s d).2 = d) : KeysKept d (onLedger env dataDir false work d).2 :=
  .of_spares (unwritten_onLedger env tidy looks Lock.fileName)

lemma keysKept_init (owners : List String) (required : UInt64) (force : Bool) (tidy : d.Tidy) :
    KeysKept d (createWallet env dataDir owners required force d).2 := by
  rcases createWallet_cases env dataDir owners required force tidy with
    ⟨_, d', spares, ended⟩ | ⟨_, d₁, spares, _, _, ended⟩ |
      ⟨w, d₁, spares, _, ⟨_, d₂, saved, ended⟩ | ⟨_, d₂, saved, ended⟩⟩
  · rw [ended]
    exact .of_spares spares
  · rw [ended]
    exact (KeysKept.of_spares spares).release
  · rw [ended]
    exact ((KeysKept.of_spares spares).trans (.of_save spares.tidy saved)).release
  · rw [ended]
    exact ((KeysKept.of_spares spares).trans (.of_save spares.tidy saved)).release

lemma keysKept_operation (operates : c.Operates) (tidy : d.Tidy) :
    KeysKept d (c.run env dataDir d).2 := by
  obtain ⟨work, run_eq, works⟩ := operates.exists_work env dataDir
  rw [run_eq]
  refine keysKept_onLedger tidy fun s d opened tidy => ?_
  have worked := works s d opened.writable
  generalize work s d = out at worked ⊢
  generalize c.operation? = op at worked
  cases worked with
  | unread => exact .refl tidy
  | keyless => exact .refl tidy
  | refused => exact .refl tidy
  | unsaved saved => exact .of_save tidy (opened.storage_eq ▸ saved)
  | failed _ _ saved => exact .of_save tidy (opened.storage_eq ▸ saved)
  | done _ saved => exact .of_save tidy (opened.storage_eq ▸ saved)

lemma keysKept_restore (index : UInt64) (tidy : d.Tidy) :
    KeysKept d ((Command.restore index).run env dataDir d).2 := by
  refine keysKept_onLedger tidy fun s d opened tidy => ?_
  rcases restoreBackup_cases opened.writable index.toNat d with
    ⟨_, ended⟩ | ⟨_, _, d', saved, ended⟩ | ⟨_, _, d', _, _, saved, ended⟩
  · rw [ended]
    exact .refl tidy
  · rw [ended]
    exact .of_save tidy (opened.storage_eq ▸ saved)
  · rw [ended]
    exact .of_save tidy (opened.storage_eq ▸ saved)

lemma openKeystore_cases (dataDir : Path) (tidy : d.Tidy) :
    ∃ d', Spares Lock.fileName d d' ∧
      ((∃ e, Workspace.openKeystore dataDir d = (.error e, d')) ∨
        Workspace.openKeystore dataDir d = (.ok (keystoreOf dataDir), d')) := by
  have making : Spares Lock.fileName d (makeDirectories (keystoreOf dataDir).directory d).2 :=
    spares_makeDirectories tidy _
  have opened := Workspace.openKeystore_eq dataDir d
  rcases made : makeDirectories (keystoreOf dataDir).directory d with ⟨e | _, d'⟩
  · rw [made] at making opened
    exact ⟨d', making, .inl ⟨_, opened⟩⟩
  · rw [made] at making opened
    exact ⟨d', making, .inr opened⟩

/-- What only tells of what was done does nothing to the disk. -/
lemma snd_bind_of_tells {ε α β : Type} (x : Attempt ε α) {f : α → Attempt ε β}
    (tells : ∀ a d, (f a d).2 = d) : ((x >>= f) d).2 = (x d).2 := by
  rcases worked : x d with ⟨e | a, d'⟩
  · rw [Attempt.bind_error worked]
  · rw [Attempt.bind_ok worked, tells]

lemma snd_mapError {ε ε' α : Type} (x : Attempt ε α) (wrap : ε → ε') (d : Disk) :
    (x.mapError wrap d).2 = (x d).2 := rfl

lemma snd_createKey (opened : Workspace.openKeystore dataDir d = (.ok (keystoreOf dataDir), d'))
    (label : Option String) : (createKey env dataDir label d).2
      = ((keystoreOf dataDir).store ⟨.ofEntropy env.entropy, label⟩ d').2 := by
  unfold createKey
  rw [Attempt.bind_ok opened, snd_bind_of_tells _ fun _ _ => rfl, snd_mapError, Keystore.createKey]

lemma snd_storeKey (opened : Workspace.openKeystore dataDir d = (.ok (keystoreOf dataDir), d'))
    (privateKey : String) (label : Option String) :
    (∃ e, SecretKey.parse privateKey = .error e ∧ (storeKey dataDir privateKey label d).2 = d') ∨
    ∃ secret, SecretKey.parse privateKey = .ok secret ∧ (storeKey dataDir privateKey label d).2
      = ((keystoreOf dataDir).store ⟨secret, label⟩ d').2 := by
  unfold storeKey
  rw [Attempt.bind_ok opened, snd_bind_of_tells _ fun _ _ => rfl, snd_mapError, Keystore.importKey]
  cases parsed : SecretKey.parse privateKey with
  | error e => exact .inl ⟨e, rfl, congrArg Prod.snd (Attempt.ofExcept_error_bind _ _)⟩
  | ok secret => exact .inr ⟨secret, rfl, congrArg Prod.snd (Attempt.ofExcept_ok_bind secret _)⟩

lemma keysKept_listKeys (tidy : d.Tidy) : KeysKept d (showKeys dataDir d).2 := by
  obtain ⟨d₁, spares, ⟨e, failed⟩ | opened⟩ := openKeystore_cases dataDir tidy
  · unfold showKeys
    rw [Attempt.bind_error failed]
    exact .of_spares spares
  · unfold showKeys
    rw [Attempt.bind_ok opened, Attempt.disk_bind]
    cases (keystoreOf dataDir).keys d₁ with
    | error e => exact .of_spares spares
    | ok keys => exact .of_spares spares

lemma snd_describeTransaction (s : Workspace) (index : Nat) (d : Disk) :
    (describeTransaction s index d).2 = d := by
  unfold describeTransaction
  cases s.wallet.ledger.transaction index with
  | error e => rfl
  | ok t =>
    cases s.wallet.ledger.confirmations index with
    | error e => rfl
    | ok confirmed => rfl

/-- A command keeps all key files, or it stores a key. -/
theorem keysKept_or_stores (env : Environment) (dataDir : Path) (c : Command) (tidy : d.Tidy) :
    KeysKept d (c.run env dataDir d).2 ∨ ∃ d₁ key, KeysKept d d₁ ∧
      (c.run env dataDir d).2 = ((keystoreOf dataDir).store key d₁).2 := by
  obtain ⟨d₁, spares, opening⟩ := openKeystore_cases dataDir tidy
  have kept := KeysKept.of_spares spares
  cases c with
  | init owners required force => exact .inl (keysKept_init owners required force tidy)
  | newKey label =>
    rcases opening with ⟨e, failed⟩ | opened
    · have ended : (createKey env dataDir label d).2 = d₁ := by
        rw [createKey, Attempt.bind_error failed]
      exact .inl (ended.symm ▸ kept)
    · exact .inr ⟨d₁, _, kept, snd_createKey opened label⟩
  | importKey privateKey label =>
    rcases opening with ⟨e, failed⟩ | opened
    · have ended : (storeKey dataDir privateKey label d).2 = d₁ := by
        rw [storeKey, Attempt.bind_error failed]
      exact .inl (ended.symm ▸ kept)
    · rcases snd_storeKey opened privateKey label with ⟨_, _, ended⟩ | ⟨secret, _, ended⟩
      · exact .inl (ended.symm ▸ kept)
      · exact .inr ⟨d₁, _, kept, ended⟩
  | listKeys => exact .inl (keysKept_listKeys tidy)
  | fund => exact .inl (keysKept_operation .fund tidy)
  | submit => exact .inl (keysKept_operation .submit tidy)
  | confirm => exact .inl (keysKept_operation .confirm tidy)
  | revoke => exact .inl (keysKept_operation .revoke tidy)
  | describe index =>
    exact .inl (keysKept_inspection env tidy fun s d => snd_describeTransaction s index.toNat d)
  | pending => exact .inl (keysKept_inspection env tidy fun _ _ => rfl)
  | status => exact .inl (keysKept_inspection env tidy fun _ _ => rfl)
  | events => exact .inl (keysKept_inspection env tidy fun _ _ => rfl)
  | restore index => exact .inl (keysKept_restore index tidy)

/-- A disk stays tidy, and its key files well named, through any command. -/
lemma wellNamed_run (env : Environment) (dataDir : Path) (c : Command) (tidy : d.Tidy) :
    (c.run env dataDir d).2.Tidy ∧ (WellNamed d → WellNamed (c.run env dataDir d).2) := by
  rcases keysKept_or_stores env dataDir c tidy with kept | ⟨d₁, key, kept, stored⟩
  · exact ⟨kept.tidy, kept.wellNamed⟩
  · rw [stored]
    exact ⟨Keystore.tidy_store _ key kept.tidy, fun named => (kept.wellNamed named).store _ key⟩

lemma wellNamed_runAll (dataDir : Path) (runs : List (Environment × Command)) (tidy : d.Tidy) :
    (runAll dataDir d runs).Tidy ∧ (WellNamed d → WellNamed (runAll dataDir d runs)) := by
  induction runs generalizing d with
  | nil => exact ⟨tidy, fun named => named⟩
  | cons run runs ih =>
    obtain ⟨env, c⟩ := run
    obtain ⟨tidy, named⟩ := wellNamed_run env dataDir c tidy
    obtain ⟨tidy, named'⟩ := ih tidy
    exact ⟨tidy, fun start => named' (named start)⟩

/-! ### Commands of owners -/

/-- The owner in whose name a command acts. -/
def owner? : Command → Option Address
  | .submit owner _ _ _ | .confirm owner _ | .revoke owner _ => (readAddress owner).toOption
  | _ => none

lemma requireKey_bind {e : Keystore.Error} (missing : s.keystore.load a d = .error e)
    (rest : Unit → Attempt Failure (List String)) :
    (s.requireKey a >>= rest) d = (.error (.keystore e), d) := by
  refine Attempt.bind_error ?_
  rw [Workspace.requireKey, Attempt.disk_bind, missing]
  rfl

lemma readAddress_of_toOption {text : String} (named : (readAddress text).toOption = some a) :
    readAddress text = .ok a := by
  cases read : readAddress text with
  | error e =>
    rw [read] at named
    cases named
  | ok b =>
    rw [read] at named
    exact congrArg Except.ok (Option.some.inj named)

/-- Without a key for the owner, nothing comes of the work on a ledger. -/
lemma exists_work_of_owner (asks : c.owner? = some a) (env : Environment) (dataDir : Path) :
    ∃ work, c.run env dataDir = onLedger env dataDir true work ∧
      ∀ s d e, s.keystore.load a d = .error e → (work s d).2 = d := by
  cases c with
  | submit owner destination value data =>
    refine ⟨_, rfl, fun s d e missing => ?_⟩
    rw [submitCall, readAddress_of_toOption asks, Attempt.ofExcept_ok_bind]
    cases readAddress destination with
    | error e => rfl
    | ok destination =>
      cases readAmount value with
      | error e => rfl
      | ok value =>
        cases readPayload data with
        | error e => rfl
        | ok data =>
          simp only [Attempt.ofExcept_ok_bind]
          rw [requireKey_bind missing]
  | confirm owner index =>
    refine ⟨_, rfl, fun s d e missing => ?_⟩
    rw [confirmTransaction, readAddress_of_toOption asks, Attempt.ofExcept_ok_bind,
      requireKey_bind missing]
  | revoke owner index =>
    refine ⟨_, rfl, fun s d e missing => ?_⟩
    rw [revokeConfirmation, readAddress_of_toOption asks, Attempt.ofExcept_ok_bind,
      requireKey_bind missing]
  | _ => cases asks

/-- A key that is loaded could be loaded before if only the lock file may differ and the data
directory was there. -/
lemma load_of_spares (spares : Spares Lock.fileName d d') {n : Nat} (base : d.base dataDir = .ok n)
    (found : (keystoreOf dataDir).load a d' = .ok key) :
    (keystoreOf dataDir).load a d = .ok key := by
  obtain ⟨text, read, gives⟩ := Keystore.load_eq_ok_iff.mp found
  refine Keystore.load_eq_ok_iff.mpr ⟨text, ?_, gives⟩
  exact spares.read_below base ⟨by decide, by decide, by decide⟩ (Keystore.keyName_plain a)
    (Keystore.keyName_ne a (by decide)) read

lemma untouched_or_loads (tidy : d.Tidy) (there : ({ dataDir } : Storage).hasLedger d = true)
    (env : Environment) (asks : c.owner? = some a) :
    Untouched dataDir d (c.run env dataDir d).2 ∨
      ∃ key, (keystoreOf dataDir).load a d = .ok key := by
  obtain ⟨n, base⟩ := (Storage.housed dataDir).exists_base there
  obtain ⟨work, run_eq, keyless⟩ := exists_work_of_owner asks env dataDir
  rw [run_eq]
  rcases onLedger_cases env dataDir work tidy with
    ⟨_, d', spares, _, ended⟩ | ⟨s, d₁, spares, opened, _, ended⟩
  · rw [ended]
    exact .inl spares.untouched
  · cases found : s.keystore.load a d₁ with
    | error e =>
      rw [ended, keyless s d₁ e found]
      exact .inl (spares.trans (Lock.spares_release dataDir spares.tidy)).untouched
    | ok key =>
      rw [opened.keystore_eq] at found
      exact .inr ⟨key, load_of_spares spares base found⟩

/-- Let any commands be run on a disk, one after the other. The key that is loaded for an address is
the one that the file with this name gives. A command acts in the name of an owner only if a key is
loaded for the owner. And if every key file was well named at first, that key is the owner's. -/
theorem acts_with_loaded_key (dataDir : Path) {start : Disk} (tidy : start.Tidy)
    (runs : List (Environment × Command)) :
    let d := runAll dataDir start runs
    (∀ a key, (keystoreOf dataDir).load a d = .ok key ↔
      ∃ text, d.read ((keystoreOf dataDir).keyPath a) = .ok text ∧ KeyFile.Gives text key) ∧
    (∀ env (c : Command) a, c.owner? = some a → ({ dataDir } : Storage).hasLedger d = true →
      Untouched dataDir d (c.run env dataDir d).2 ∨
        ∃ key, (keystoreOf dataDir).load a d = .ok key) ∧
    (WellNamed start → ∀ a key, (keystoreOf dataDir).load a d = .ok key → key.address = a) := by
  intro d
  obtain ⟨tidy, named⟩ := wellNamed_runAll dataDir runs tidy
  refine ⟨fun a key => Keystore.load_eq_ok_iff, fun env c a asks there => ?_, ?_⟩
  · exact untouched_or_loads tidy there env asks
  · exact fun start a key found => (named start).address_eq found

/-! ### A key of the owner, and one of somebody else -/

/-- The key of the only owner of the new wallet. -/
def signatoryKey : OwnerKey where
  secret := ⟨1, by decide, by decide⟩
  label := none

/-- A key of somebody else. -/
def otherKey : OwnerKey where
  secret := ⟨2, by decide, by decide⟩
  label := none

lemma address_signatoryKey : signatoryKey.address = signatory := by decide +kernel

lemma address_otherKey : otherKey.address ≠ signatory := by decide +kernel

/-- The disk of the new wallet with room for keys. -/
def roomyDisk : Disk :=
  newDisk.put ⟨1, "keys"⟩ (.directory 2)

/-- The same disk with a key file that is named for the owner. -/
def keyedDisk (text : String) : Disk :=
  roomyDisk.put ⟨2, keyName signatory⟩ (.file text)

/-- The same disk with the lock held. -/
def heldKeyed (text : String) : Disk :=
  (keyedDisk text).put ⟨1, ".lock"⟩ (.file "1")

lemma makeKeys_newDisk :
    makeDirectories (keystoreOf "data").directory newDisk = (.ok (), roomyDisk) := rfl

lemma fileSlot_roomyDisk : roomyDisk.fileSlot ((keystoreOf "data").keyPath signatory)
    = .ok ⟨2, keyName signatory⟩ := by rfl

/-- The owner's key is imported. -/
def importing : Command := .importKey signatoryKey.secret.render none

lemma run_importing :
    (importing.run atWork "data" newDisk).2 = keyedDisk signatoryKey.toJson.pretty := by
  have opened : Workspace.openKeystore "data" newDisk = (.ok (keystoreOf "data"), roomyDisk) := by
    rw [Workspace.openKeystore_eq, makeKeys_newDisk]
  have written : roomyDisk.write ((keystoreOf "data").keyPath signatoryKey.address)
      signatoryKey.toJson.pretty = .ok (keyedDisk signatoryKey.toJson.pretty) := by
    rw [address_signatoryKey, Disk.write, fileSlot_roomyDisk]
    rfl
  have parsed := signatoryKey.secret.parse_render
  have run_eq : importing.run atWork "data" newDisk
      = storeKey "data" signatoryKey.secret.render none newDisk := rfl
  rw [run_eq]
  rcases snd_storeKey opened signatoryKey.secret.render none with
    ⟨e, failed, _⟩ | ⟨secret, read, ended⟩
  · rw [parsed] at failed
    cases failed
  · rw [parsed] at read
    cases read
    rw [ended]
    exact congrArg Prod.snd (Keystore.store_of_write written)

/-- In the owner's name, a call is submitted that moves nothing. -/
def submitting : Command := .submit signatory.render signatory.render "0" none

/-- The call that is submitted. -/
def idleCall : Call := ⟨signatory, 0, []⟩

lemma operation?_submitting : submitting.operation? = some (.submit signatory idleCall) := by
  have owner : readAddress signatory.render = .ok signatory := by
    rw [readAddress, Address.parse_render]
    rfl
  have value : readAmount "0" = .ok 0 := rfl
  simp only [submitting, operation?, owner, value, readPayload]
  rfl

lemma owner?_submitting : submitting.owner? = some signatory := by
  simp only [submitting, owner?, readAddress, Address.parse_render]
  rfl

section

variable (text : String)

lemma tidy_keyedDisk : (keyedDisk text).Tidy :=
  (tidy_newDisk.put _ _).put _ _

lemma read_keyedDisk :
    (keyedDisk text).read ((keystoreOf "data").keyPath signatory) = .ok text := by rfl

lemma findKeys_keyedDisk :
    (keyedDisk text).findDirectory (keystoreOf "data").directory = .ok 2 := by rfl

lemma readLedger_keyedDisk : (keyedDisk text).read ({ dataDir := "data" } : Storage).ledgerPath
    = .ok (Storage.fileText newServer.wallet) := by rfl

lemma acquire_keyedDisk :
    Lock.acquire atWork.processes "data" (keyedDisk text) = (.ok (), heldKeyed text) := by rfl

lemma makeKeys_heldKeyed :
    makeDirectories (keystoreOf "data").directory (heldKeyed text) = (.ok (), heldKeyed text) := by
  rfl

lemma save_heldKeyed (w : Wallet) :
    (({ dataDir := "data" } : Storage).save w (heldKeyed text)).1 = .ok () := by rfl

end

variable {text : String}

lemma load_keyedDisk : (keystoreOf "data").load signatory (keyedDisk text) = .ok key ↔
    KeyFile.Gives text key := by
  simp [Keystore.load_eq_ok_iff, read_keyedDisk]

/-- There is no other file in the directory of the keys. -/
lemma eq_of_file?_keyedDisk {name text' : String}
    (there : (keyedDisk text).file? ⟨2, name⟩ = some text') : text' = text := by
  by_cases same : (⟨2, keyName signatory⟩ : Slot) = ⟨2, name⟩
  · rw [Disk.file?, keyedDisk, Disk.lookup?_put, if_pos same] at there
    exact (Option.some.inj there).symm
  · rw [keyedDisk, Disk.file?_put_of_ne same] at there
    have mem := Disk.mem_of_lookup? (Disk.file?_eq_some_iff.mp there)
    simp [roomyDisk, newDisk, Disk.put] at mem

/-- With any key in the file, the command goes ahead. -/
lemma touched_submitting (gives : KeyFile.Gives text key) :
    ¬ Untouched "data" (keyedDisk text) (submitting.run atWork "data" (keyedDisk text)).2 := by
  have loads : ({ dataDir := "data" } : Storage).load (keyedDisk text) = .ok newServer.wallet := by
    have loads := loads_newDisk
    have same : newDisk.read ({ dataDir := "data" } : Storage).ledgerPath
        = .ok (Storage.fileText newServer.wallet) := rfl
    rw [Storage.load_of_read same] at loads
    rw [Storage.load_of_read (readLedger_keyedDisk text), loads]
  have free : Lock.IsFree atWork.processes "data" (keyedDisk text) := by
    intro pid named
    cases (show none = some pid from named)
  have smooth : Smooth "data" (keyedDisk text) atWork submitting := by
    refine .of_answer (tidy_keyedDisk text) loads free (acquire_keyedDisk text)
      (makeKeys_heldKeyed text) .submit operation?_submitting (fun caller asks => ?_) rfl
      (save_heldKeyed text _)
    cases asks
    exact ⟨key, load_keyedDisk.mpr gives⟩
  have held : (newServer.wallet.perform .epoch submitting).ledger.Held := by
    rw [Wallet.perform, operation?_submitting]
    exact ⟨by decide, by decide⟩
  obtain ⟨_, loads'⟩ := smooth.load_run (tidy_keyedDisk text) loads held
  intro untouched
  have read := untouched.ledger _ (readLedger_keyedDisk text)
  -- the new ledger tells of the call
  rw [Storage.load_of_read read, ← Storage.load_of_read (readLedger_keyedDisk text), loads] at loads'
  have counts := congrArg (·.ledger.transactions.length) (Except.ok.inj loads')
  rw [Wallet.perform, operation?_submitting] at counts
  cases counts

/-- The key that was imported is the owner's, and the owner's commands go ahead with it. -/
theorem imported_key_acts : newDisk.Tidy ∧ WellNamed newDisk ∧
    ({ dataDir := "data" } : Storage).hasLedger (runAll "data" newDisk [(atWork, importing)]) = true ∧
    ¬ Untouched "data" (runAll "data" newDisk [(atWork, importing)])
      (submitting.run atWork "data" (runAll "data" newDisk [(atWork, importing)])).2 ∧
    ∃ key, (keystoreOf "data").load signatory (runAll "data" newDisk [(atWork, importing)])
      = .ok key ∧ key.address = signatory := by
  have named : WellNamed newDisk := by
    intro s a text key name_eq there
    have mem := Disk.mem_of_lookup? (Disk.file?_eq_some_iff.mp there)
    simp only [newDisk, List.mem_cons, List.not_mem_nil, Prod.mk.injEq, reduceCtorEq, and_false,
      or_false] at mem
    rw [mem.1] at name_eq
    exact absurd name_eq.symm (Keystore.keyName_ne a (by decide))
  have disk_eq : runAll "data" newDisk [(atWork, importing)]
      = keyedDisk signatoryKey.toJson.pretty := by
    rw [runAll, runAll, run_importing]
  have there : ({ dataDir := "data" } : Storage).hasLedger
      (runAll "data" newDisk [(atWork, importing)]) = true := by
    rw [disk_eq]
    exact Storage.hasLedger_of_read (readLedger_keyedDisk _)
  have touched := touched_submitting signatoryKey.gives
  rw [← disk_eq] at touched
  obtain ⟨_, acts, named'⟩ := acts_with_loaded_key "data" tidy_newDisk [(atWork, importing)]
  rcases acts atWork submitting signatory owner?_submitting there with untouched | ⟨key, found⟩
  · exact absurd untouched touched
  · exact ⟨tidy_newDisk, named, there, touched, key, found, named' named _ key found⟩

/-- With the key of somebody else in the file that is named for the owner, commands go ahead in the
owner's name, though no file holds a key of the owner. -/
theorem foreign_key_acts : (keyedDisk otherKey.toJson.pretty).Tidy ∧
    (keystoreOf "data").load signatory (keyedDisk otherKey.toJson.pretty) = .ok otherKey ∧
    otherKey.address ≠ signatory ∧
    (keyedDisk otherKey.toJson.pretty).findDirectory (keystoreOf "data").directory = .ok 2 ∧
    (∀ name text key, (keyedDisk otherKey.toJson.pretty).file? ⟨2, name⟩ = some text →
      KeyFile.Gives text key → key.address ≠ signatory) ∧
    ¬ Untouched "data" (keyedDisk otherKey.toJson.pretty)
      (submitting.run atWork "data" (keyedDisk otherKey.toJson.pretty)).2 := by
  refine ⟨tidy_keyedDisk _, load_keyedDisk.mpr otherKey.gives, address_otherKey,
    findKeys_keyedDisk _, fun name text key there gives => ?_, touched_submitting otherKey.gives⟩
  rw [eq_of_file?_keyedDisk there] at gives
  rw [gives.unique otherKey.gives]
  exact address_otherKey

end Command

end Quorum
