import Quorum.Proofs.Command.Untouched
import Quorum.Proofs.Ledger.Alike
import Quorum.Proofs.Server.Freshness
import Quorum.Proofs.Wallet.Failure
import Quorum.Proofs.Wallet.RoundTrip

/-!
# Commands as operations on a wallet in memory

Each command is run by a process of its own, which loads the wallet and saves it. As long as file
operations succeed, the ledger file holds what one would have who kept the wallet in memory and
never looked at a disk.
-/

namespace Quorum

open Command (Failure)
open Disk (Spares)
open Ledger (Operation)
open List (Forall₂)
open Time (Instant)

variable {env : Environment} {dataDir : Path} {d d' : Disk} {w w' : Wallet} {c : Command}
  {s : Workspace}

/-! ### A wallet in memory -/

namespace Wallet

/-- The wallet after the operation that a command asks for. -/
def perform (w : Wallet) (now : Instant) (c : Command) : Wallet :=
  match c.operation? with
  | some op => (w.apply now op).2
  | none => w

/-- The wallet after some commands, each at its time. -/
def performAll (w : Wallet) : List (Instant × Command) → Wallet
  | [] => w
  | (now, c) :: rest => (w.perform now c).performAll rest

end Wallet

/-! ### Processes -/

namespace Command

/-- The disk after some commands, each run by a process of its own. -/
def runAll (dataDir : Path) (d : Disk) : List (Environment × Command) → Disk
  | [] => d
  | (env, c) :: rest => runAll dataDir (c.run env dataDir d).2 rest

/-- The command is one of the four that ask for an operation, no living process holds the lock, the
caller's key is there, and no file operation fails. -/
structure Smooth (dataDir : Path) (d : Disk) (env : Environment) (c : Command) : Prop where
  operates : c.Operates
  free : Lock.IsFree env.processes dataDir d
  key : ∀ op caller, c.operation? = some op → op.caller? = some caller →
    ∃ key, (Workspace.keystoreOf dataDir).load caller d = .ok key
  saved : ∀ cause, (c.run env dataDir d).1 ≠ .error (.storage (.io cause))
  opened : ∀ cause, (c.run env dataDir d).1 ≠ .error (.keystore (.io cause))

/-- All commands of a run are smooth where they are run. -/
def AllSmooth (dataDir : Path) (d : Disk) : List (Environment × Command) → Prop
  | [] => True
  | (env, c) :: rest => Smooth dataDir d env c ∧ AllSmooth dataDir (c.run env dataDir d).2 rest

end Command

/-! ### What is saved -/

/-- A wallet that was saved is loaded as it was, if it was loaded before. -/
lemma Storage.load_of_save (tidy : d.Tidy) (reachable : w.Reachable) (bare : w.treasury.Bare)
    (saved : ({ dataDir } : Storage).save w d = (.ok (), d')) :
    d'.Tidy ∧ d'.read ({ dataDir } : Storage).ledgerPath = .ok (fileText w) ∧
      (w.ledger.Held → ({ dataDir } : Storage).load d' = .ok w) := by
  obtain ⟨text, tidy⟩ := read_of_saved tidy saved
  refine ⟨tidy, text, fun held => ?_⟩
  rw [load_of_read text, Wallet.ofText_fileText, Wallet.decode_toJson (reachable.storable held),
    Wallet.stored_eq_iff.mpr bare]
  rfl

/-- What was loaded and then operated on can be loaded again. -/
lemma Wallet.reachable_apply {text : String} (read : ofText text = .ok w) (now : Instant)
    (op : Operation) : Reachable (w.apply now op).2 ∧ (w.apply now op).2.treasury.Bare :=
  ⟨(Reachable.read read).acts now (.operate op),
    bare_apply (stored_eq_iff.mp (storable_of_ofText read).2)⟩

/-- What is kept of a failed call includes the caller's confirmation. -/
lemma Wallet.exists_of_keeps {now : Instant} {op : Operation} {index : Nat} {reason : String}
    (kept : w.Keeps now index reason w' op) : ∃ caller t, op.caller? = some caller ∧
      w'.ledger.transactions[index]? = some t ∧ caller ∈ t.confirmations := by
  cases op with
  | submit caller call =>
    obtain ⟨rfl, t, _, confirmed, _, adds⟩ := kept
    refine ⟨caller, t, rfl, ?_, (confirmed caller).mpr rfl⟩
    rw [adds.transactions_eq, List.getElem?_concat_length]
  | confirm caller i =>
    obtain ⟨rfl, t, t', found, _, _, confirmed, _, adds⟩ := kept
    obtain ⟨inside, _⟩ := List.getElem?_eq_some_iff.mp found
    refine ⟨caller, t', rfl, ?_, (confirmed caller).mpr (.inl rfl)⟩
    rw [adds.transactions_eq, List.getElem?_set_self inside]
  | revoke => cases kept
  | deposit => cases kept

/-! ### One command -/

namespace Command

lemma Smooth.load_run (smooth : Smooth dataDir d env c) (tidy : d.Tidy)
    (loads : ({ dataDir } : Storage).load d = .ok w) (held : (w.perform env.now c).ledger.Held) :
    (c.run env dataDir d).2.Tidy ∧
      ({ dataDir } : Storage).load (c.run env dataDir d).2 = .ok (w.perform env.now c) := by
  obtain ⟨work, run_eq, works⟩ := smooth.operates.exists_work env dataDir
  have all_saved := smooth.saved
  have all_opened := smooth.opened
  have key := smooth.key
  obtain ⟨text, _, accepted⟩ := Storage.exists_of_load loads
  rw [run_eq] at all_saved all_opened ⊢
  rcases onLedger_of_loads work tidy smooth.free loads with
    ⟨cause, failed⟩ | ⟨cause, failed⟩ | ⟨d₁, opening, done⟩
  · exact absurd failed (all_saved cause)
  · exact absurd failed (all_opened cause)
  · rw [done] at all_saved ⊢
    have worked := works ⟨w, { dataDir }, Workspace.keystoreOf dataDir, true⟩ d₁ rfl
    have kept {d₂ : Disk} (spares : Spares Lock.fileName d d₂) :
        (Lock.release dataDir d₂).Tidy ∧
          ({ dataDir } : Storage).load (Lock.release dataDir d₂) = .ok w := by
      have released := spares.trans (Lock.spares_release dataDir spares.tidy)
      exact ⟨released.tidy, released.load_eq_ok loads⟩
    have replaced {op : Operation} {d₂ : Disk} (held : (w.apply env.now op).2.ledger.Held)
        (saved : ({ dataDir } : Storage).save (w.apply env.now op).2 d₁ = (.ok (), d₂)) :
        (Lock.release dataDir d₂).Tidy ∧
          ({ dataDir } : Storage).load (Lock.release dataDir d₂) = .ok (w.apply env.now op).2 := by
      obtain ⟨reachable, bare⟩ := Wallet.reachable_apply accepted env.now op
      obtain ⟨tidy, _, loads⟩ := Storage.load_of_save opening.tidy reachable bare saved
      have released := Lock.spares_release dataDir tidy
      exact ⟨released.tidy, released.load_eq_ok (loads held)⟩
    unfold Wallet.perform at held ⊢
    generalize c.operation? = op? at worked key held ⊢
    generalize work ⟨w, { dataDir }, Workspace.keystoreOf dataDir, true⟩ d₁ = out
      at worked all_saved ⊢
    cases worked with
    | unread => exact kept opening
    | @keyless op caller e asks missing =>
      obtain ⟨key, found⟩ := key op caller rfl asks
      rw [opening.keystore_load_eq_ok found] at missing
      cases missing
    | @refused op e answer refusal =>
      have same : (w.apply env.now op).2 = w := Wallet.eq_of_isRefusal answer refusal
      dsimp only
      rw [same]
      exact kept opening
    | @unsaved op cause => exact absurd rfl (all_saved cause)
    | failed _ _ saved => exact replaced held saved
    | done _ saved => exact replaced held saved

/-- A command is smooth if the lock can be taken, the caller's key is there, the operation succeeds
and the wallet can be saved. -/
lemma Smooth.of_answer {d₁ d₂ : Disk} {op : Operation} {reply : Ledger.Reply} (tidy : d.Tidy)
    (loads : ({ dataDir } : Storage).load d = .ok w) (free : Lock.IsFree env.processes dataDir d)
    (taken : Lock.acquire env.processes dataDir d = (.ok (), d₁))
    (keys : makeDirectories (Workspace.keystoreOf dataDir).directory d₁ = (.ok (), d₂))
    (operates : c.Operates) (asks : c.operation? = some op)
    (key : ∀ caller, op.caller? = some caller →
      ∃ key, (Workspace.keystoreOf dataDir).load caller d = .ok key)
    (answer : (w.apply env.now op).1 = .ok reply)
    (saves : (({ dataDir } : Storage).save (w.apply env.now op).2 d₂).1 = .ok ()) :
    Smooth dataDir d env c := by
  have taking := Lock.spares_acquire env.processes dataDir tidy
  rw [taken] at taking
  have making : Spares Lock.fileName d₁ d₂ := by
    have made : Spares Lock.fileName d₁ _ :=
      spares_makeDirectories taking.tidy (Workspace.keystoreOf dataDir).directory
    rwa [keys] at made
  have opened := Workspace.load_of_keys (taking.load_eq_ok loads) keys
  obtain ⟨lines, d', run⟩ : ∃ lines d', c.run env dataDir d = (.ok lines, d') := by
    obtain ⟨work, run_eq, works⟩ := operates.exists_work env dataDir
    have worked := works ⟨w, { dataDir }, Workspace.keystoreOf dataDir, true⟩ d₂ rfl
    rw [asks] at worked
    rw [run_eq, onLedger, if_pos rfl, Lock.whileHeld_eq, taken]
    dsimp only
    rw [Attempt.bind_ok opened]
    generalize work _ d₂ = out at worked ⊢
    cases worked with
    | @keyless _ caller _ asks missing =>
      obtain ⟨key, found⟩ := key caller asks
      rw [(taking.trans making).keystore_load_eq_ok found] at missing
      cases missing
    | refused refused =>
      rw [answer] at refused
      cases refused
    | unsaved unsaved =>
      rw [unsaved] at saves
      cases saves
    | failed failed =>
      rw [answer] at failed
      cases failed
    | done => exact ⟨_, _, rfl⟩
  refine ⟨operates, free, fun op' caller asked => ?_, ?_, ?_⟩
  · rw [asks] at asked
    cases asked
    exact key caller
  · intro e failed
    rw [run] at failed
    cases failed
  · intro e failed
    rw [run] at failed
    cases failed

/-- A command that ends with a failed call has saved the wallet that the operation left, with the
confirmation that led to the call. -/
lemma saved_of_executionFailed (tidy : d.Tidy) (operates : c.Operates) {index : Nat}
    {reason : String}
    (failed : (c.run env dataDir d).1 = .error (.ledger (.executionFailed index reason))) :
    ∃ w op caller t, c.operation? = some op ∧ op.caller? = some caller ∧
      w.ledger.transactions[index]? = some t ∧ caller ∈ t.confirmations ∧
      (∀ before, ({ dataDir } : Storage).load d = .ok before → w = before.perform env.now c) ∧
      (c.run env dataDir d).2.read ({ dataDir } : Storage).ledgerPath = .ok (Storage.fileText w) ∧
      (w.ledger.Held → ({ dataDir } : Storage).load (c.run env dataDir d).2 = .ok w) := by
  obtain ⟨work, run_eq, works⟩ := operates.exists_work env dataDir
  rw [run_eq] at failed ⊢
  rcases onLedger_cases env dataDir work tidy with
    ⟨e, d', _, own, ended⟩ | ⟨s, d₁, spares, opened, loaded, ended⟩
  · rw [ended] at failed
    cases failed
    exact absurd rfl (own _)
  · rw [ended] at failed ⊢
    have worked := works s d₁ opened.writable
    unfold Wallet.perform
    generalize c.operation? = op? at worked ⊢
    generalize work s d₁ = out at worked failed
    cases worked with
    | unread own =>
      cases failed
      exact absurd rfl (own _)
    | keyless => cases failed
    | refused _ refusal =>
      cases failed
      cases refusal
    | unsaved => cases failed
    | done => cases failed
    | @failed op e d₂ answer _ saved =>
      cases failed
      obtain ⟨text, accepted⟩ := opened.read
      obtain ⟨reachable, bare⟩ := Wallet.reachable_apply accepted env.now op
      rw [opened.storage_eq] at saved
      obtain ⟨tidy, read, loads⟩ := Storage.load_of_save spares.tidy reachable bare saved
      obtain ⟨caller, t, asks, found, confirmed⟩ :=
        Wallet.exists_of_keeps (Wallet.keeps_of_executionFailed answer)
      have released := Lock.spares_release dataDir tidy
      refine ⟨_, op, caller, t, rfl, asks, found, confirmed, fun before loads => ?_,
        released.untouched.ledger _ read, fun held => released.load_eq_ok (loads held)⟩
      rw [loaded before loads]

end Command

/-! ### Many commands -/

/-- A wallet that is kept in memory outgrows no machine that can hold it in the end. -/
lemma Wallet.held_of_performAll {runs : List (Instant × Command)}
    (h : (w.performAll runs).ledger.Held) : w.ledger.Held := by
  induction runs generalizing w with
  | nil => exact h
  | cons run runs ih =>
    by_contra large
    refine absurd (ih h) ?_
    unfold perform
    split
    · rename_i op _
      exact Invariant.act Ledger.invariant_not_held large (.operate op)
    · exact large

namespace Command

/-- The times of some commands, and what is asked for at each. -/
def timed (runs : List (Environment × Command)) : List (Instant × Command) :=
  runs.map fun run => (run.1.now, run.2)

/-- After smooth commands the ledger file holds the wallet that was kept in memory. -/
lemma AllSmooth.load_runAll {runs : List (Environment × Command)}
    (smooth : AllSmooth dataDir d runs) (tidy : d.Tidy)
    (loads : ({ dataDir } : Storage).load d = .ok w)
    (held : (w.performAll (timed runs)).ledger.Held) :
    ({ dataDir } : Storage).load (runAll dataDir d runs) = .ok (w.performAll (timed runs)) := by
  induction runs generalizing d w with
  | nil => exact loads
  | cons run runs ih =>
    obtain ⟨env, c⟩ := run
    obtain ⟨first, rest⟩ := smooth
    obtain ⟨tidy, loads⟩ := first.load_run tidy loads (Wallet.held_of_performAll held)
    exact ih rest tidy loads held

end Command

/-! ### Other clocks -/

namespace Wallet.Alike

variable {same : Instant → Instant → Prop} {now now' : Instant}

lemma perform (h : w.Alike same w') (now_same : same now now') (c : Command) :
    (w.perform now c).Alike same (w'.perform now' c) := by
  unfold Wallet.perform
  split
  · rename_i op _
    cases op with
    | submit caller call => exact (h.submit now_same caller call).2
    | confirm caller index => exact (h.confirm now_same caller index).2
    | revoke caller index => exact (h.revoke now_same caller index).2
    | deposit source amount => exact h.deposit now_same source amount
  · exact h

lemma performAll {runs runs' : List (Instant × Command)} (h : w.Alike same w')
    (paired : Forall₂ (fun run run' => same run.1 run'.1 ∧ run.2 = run'.2) runs runs') :
    (w.performAll runs).Alike same (w'.performAll runs') := by
  induction paired generalizing w w' with
  | nil => exact h
  | @cons run run' _ _ first _ ih =>
    obtain ⟨now_same, asks⟩ := first
    obtain ⟨now, c⟩ := run
    obtain ⟨now', c'⟩ := run'
    obtain rfl : c = c' := asks
    exact ih (h.perform now_same c)

end Wallet.Alike

/-! ### All commands that write the ledger -/

namespace Command

/-- After smooth commands, each run by a process of its own, the ledger file holds the wallet that
was loaded at first and kept in memory since, which differs from what other clocks would have made
of it in time stamps of the same commands at most. A command that ends with a failed call has saved
what the operation left, with the confirmation that led to the call. Any other failure, that of a
file operation apart, leaves all files as they were, as does a new wallet that is asked for without
force where a ledger is. With force, the text of the old ledger becomes the latest backup. -/
theorem commands_refine_wallet (dataDir : Path) (tidy : d.Tidy) (unshared : d.Unshared) :
    (∀ w runs, ({ dataDir } : Storage).load d = .ok w → AllSmooth dataDir d runs →
      (w.performAll (timed runs)).ledger.Held →
      ({ dataDir } : Storage).load (runAll dataDir d runs) = .ok (w.performAll (timed runs)) ∧
      ∀ same others, (∀ i, same i i) →
        Forall₂ (fun run run' => same run.1 run'.1 ∧ run.2 = run'.2) (timed runs) others →
        (w.performAll (timed runs)).Alike same (w.performAll others)) ∧
    (∀ env c index reason, Operates c →
      (c.run env dataDir d).1 = .error (.ledger (.executionFailed index reason)) →
      ∃ w op caller t, c.operation? = some op ∧ op.caller? = some caller ∧
        w.ledger.transactions[index]? = some t ∧ caller ∈ t.confirmations ∧
        (∀ before, ({ dataDir } : Storage).load d = .ok before → w = before.perform env.now c) ∧
        (c.run env dataDir d).2.read ({ dataDir } : Storage).ledgerPath = .ok (Storage.fileText w) ∧
        (w.ledger.Held → ({ dataDir } : Storage).load (c.run env dataDir d).2 = .ok w)) ∧
    (∀ env c e, Writes c → (c.run env dataDir d).1 = .error e → e.Idle →
      Untouched dataDir d (c.run env dataDir d).2) ∧
    (∀ env owners required, ({ dataDir } : Storage).hasLedger d = true →
      Untouched dataDir d ((Command.init owners required false).run env dataDir d).2) ∧
    ∀ env owners required lines old, d.read ({ dataDir } : Storage).ledgerPath = .ok old →
      ((Command.init owners required true).run env dataDir d).1 = .ok lines →
      ((Command.init owners required true).run env dataDir d).2.read
        (({ dataDir } : Storage).backupPath 0) = .ok old := by
  refine ⟨fun w runs loads smooth held => ⟨smooth.load_runAll tidy loads held, ?_⟩, ?_, ?_, ?_, ?_⟩
  · intro same others same_refl paired
    exact (Wallet.Alike.refl same_refl w).performAll paired
  · intro env c index reason operates failed
    exact saved_of_executionFailed tidy operates failed
  · intro env c e writes failed idle
    exact untouched_of_failure tidy writes failed idle
  · intro env owners required present
    exact untouched_of_present tidy present
  · intro env owners required lines old read made
    exact backup_of_createWallet tidy unshared read made

/-! ### A deposit from the command line -/

open Server (newDisk newServer signatory)

/-- A process on a machine where all processes are alive. -/
def atWork : Environment where
  processes := ⟨1, fun _ => true⟩
  now := .epoch
  entropy := 0

/-- The owner of the new wallet pays in. -/
def funding : Command := .fund signatory.render "5"

lemma operation?_funding :
    funding.operation? = some (.deposit signatory ⟨5000000000000000000, by decide⟩) := by
  have source : readAddress signatory.render = .ok signatory := by
    rw [readAddress, Address.parse_render]
    rfl
  have amount : readAmount "5" = .ok ⟨5000000000000000000, by decide⟩ := rfl
  simp only [funding, operation?, source, amount]
  rfl

/-- The disk of the new wallet with the lock held. -/
def heldDisk : Disk where
  workDir := Disk.top
  entries := [(⟨1, ".lock"⟩, .file "1"),
    (⟨1, "ledger.json"⟩, .file (Storage.fileText newServer.wallet)),
    (⟨Disk.top, "data"⟩, .directory 1)]

/-- The same disk with room for keys. -/
def lockedDisk : Disk :=
  heldDisk.put ⟨1, "keys"⟩ (.directory 2)

lemma acquire_newDisk : Lock.acquire atWork.processes "data" newDisk = (.ok (), heldDisk) := rfl

lemma tidy_newDisk : newDisk.Tidy := by
  simp [Disk.Tidy, newDisk]

lemma loads_newDisk : ({ dataDir := "data" } : Storage).load newDisk = .ok newServer.wallet :=
  (Server.exists_of_start Server.start_newDisk).2

lemma makeKeys_heldDisk :
    makeDirectories (Workspace.keystoreOf "data").directory heldDisk = (.ok (), lockedDisk) := rfl

lemma save_lockedDisk (w : Wallet) :
    (({ dataDir := "data" } : Storage).save w lockedDisk).1 = .ok () := by rfl

lemma smooth_funding : Smooth "data" newDisk atWork funding := by
  have free : Lock.IsFree atWork.processes "data" newDisk := by
    intro pid named
    cases (show none = some pid from named)
  exact .of_answer tidy_newDisk loads_newDisk free acquire_newDisk makeKeys_heldDisk .fund
    operation?_funding nofun rfl (save_lockedDisk _)

/-- The deposit is in the ledger file. -/
theorem funding_in_file : newDisk.Tidy ∧ newDisk.Unshared ∧
    AllSmooth "data" newDisk [(atWork, funding)] ∧
    ({ dataDir := "data" } : Storage).load (runAll "data" newDisk [(atWork, funding)])
      = .ok (newServer.wallet.deposit .epoch signatory ⟨5000000000000000000, by decide⟩) := by
  have unshared : newDisk.Unshared := Disk.unshared_of_pairwise (by simp [newDisk])
  have smooth : AllSmooth "data" newDisk [(atWork, funding)] := ⟨smooth_funding, trivial⟩
  have performed : newServer.wallet.performAll (timed [(atWork, funding)])
      = newServer.wallet.deposit .epoch signatory ⟨5000000000000000000, by decide⟩ := by
    show newServer.wallet.perform .epoch funding = _
    rw [Wallet.perform, operation?_funding]
    rfl
  have held : (newServer.wallet.performAll (timed [(atWork, funding)])).ledger.Held := by
    rw [performed]
    exact ⟨by decide, by decide⟩
  obtain ⟨refines, _⟩ := commands_refine_wallet "data" tidy_newDisk unshared
  obtain ⟨loads, _⟩ := refines newServer.wallet _ loads_newDisk smooth held
  rw [performed] at loads
  exact ⟨tidy_newDisk, unshared, smooth, loads⟩

end Command

end Quorum
