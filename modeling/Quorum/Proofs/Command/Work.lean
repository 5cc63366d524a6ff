import Quorum.Command
import Quorum.Proofs.Server.Effect
import Quorum.Proofs.Wallet.Run

/-!
# What commands do to a loaded wallet

Four commands ask for an operation on the ledger. Once the ledger is loaded, such a command either
ends without touching the disk, because its arguments cannot be read, a key is missing or the ledger
refuses, or it carries the operation out and saves the wallet, be it for a failed call.
-/

namespace Quorum.Ledger

/-- Who has to confirm with a key that the operation is wanted. -/
def Operation.caller? : Operation → Option Address
  | .submit caller _ | .confirm caller _ | .revoke caller _ => some caller
  | .deposit _ _ => none

end Quorum.Ledger

namespace Quorum

open Command (Failure)
open Ledger (Operation Reply)
open Time (Instant)

/-! ### What is asked for -/

namespace Command

/-- The operation that a command asks for, if all its arguments can be read. -/
def operation? : Command → Option Operation
  | .fund source amount =>
    match readAddress source, readAmount amount with
    | .ok source, .ok amount => if amount = 0 then none else some (.deposit source amount)
    | _, _ => none
  | .submit owner destination value data =>
    match readAddress owner, readAddress destination, readAmount value, readPayload data with
    | .ok owner, .ok destination, .ok value, .ok data =>
      some (.submit owner ⟨destination, value, data⟩)
    | _, _, _, _ => none
  | .confirm owner index =>
    match readAddress owner with
    | .ok owner => some (.confirm owner index.toNat)
    | .error _ => none
  | .revoke owner index =>
    match readAddress owner with
    | .ok owner => some (.revoke owner index.toNat)
    | .error _ => none
  | _ => none

/-- The commands that ask for operations. -/
inductive Operates : Command → Prop
  | fund {source amount : String} : Operates (.fund source amount)
  | submit {owner destination value : String} {data : Option String} :
      Operates (.submit owner destination value data)
  | confirm {owner : String} {index : UInt64} : Operates (.confirm owner index)
  | revoke {owner : String} {index : UInt64} : Operates (.revoke owner index)

variable {e : Failure}

/-- What is put in other words than those of a ledger is no failure of a ledger. -/
lemma ne_ledger_of_mapError {ε α : Type} {r : Except ε α} (wrap : ε → Failure)
    (foreign : ∀ x cause, wrap x ≠ .ledger cause) (h : r.mapError wrap = .error e)
    (cause : Ledger.Error) : e ≠ .ledger cause := by
  cases r with
  | error x =>
    cases h
    exact foreign x cause
  | ok => cases h

lemma readAddress_ne_ledger {text : String} (h : readAddress text = .error e)
    (cause : Ledger.Error) : e ≠ .ledger cause :=
  ne_ledger_of_mapError (.address text) (fun _ _ => nofun) h cause

lemma readAmount_ne_ledger {text : String} (h : readAmount text = .error e)
    (cause : Ledger.Error) : e ≠ .ledger cause :=
  ne_ledger_of_mapError .amount (fun _ _ => nofun) h cause

lemma readPayload_ne_ledger {text? : Option String} (h : readPayload text? = .error e)
    (cause : Ledger.Error) : e ≠ .ledger cause := by
  cases text? with
  | none => cases h
  | some text => exact ne_ledger_of_mapError .payload (fun _ _ => nofun) h cause

end Command

/-! ### What becomes of it -/

/-- What a command makes of a loaded wallet and the disk that asks for the given operation. -/
inductive Works (s : Workspace) (now : Instant) (d : Disk) :
    Option Operation → Except Failure (List String) × Disk → Prop
  | unread {e : Failure} (own : ∀ cause, e ≠ .ledger cause) : Works s now d none (.error e, d)
  | keyless {op : Operation} {caller : Address} {e : Keystore.Error}
      (asks : op.caller? = some caller) (missing : s.keystore.load caller d = .error e) :
      Works s now d (some op) (.error (.keystore e), d)
  | refused {op : Operation} {e : Ledger.Error} (answer : (s.wallet.apply now op).1 = .error e)
      (refusal : e.isRefusal = true) : Works s now d (some op) (.error (.ledger e), d)
  | unsaved {op : Operation} {cause : IoError} {d' : Disk}
      (unsaved : s.storage.save (s.wallet.apply now op).2 d = (.error (.io cause), d')) :
      Works s now d (some op) (.error (.storage (.io cause)), d')
  | failed {op : Operation} {e : Ledger.Error} {d' : Disk}
      (answer : (s.wallet.apply now op).1 = .error e) (tried : e.isRefusal = false)
      (saved : s.storage.save (s.wallet.apply now op).2 d = (.ok (), d')) :
      Works s now d (some op) (.error (.ledger e), d')
  | done {op : Operation} {reply : Reply} {lines : List String} {d' : Disk}
      (answer : (s.wallet.apply now op).1 = .ok reply)
      (saved : s.storage.save (s.wallet.apply now op).2 d = (.ok (), d')) :
      Works s now d (some op) (.ok lines, d')

namespace Attempt

variable {ε ε' α β : Type} {d d' : Disk}

/-- Put in other words, work ends where it ended. -/
lemma mapError_of_eq {x : Attempt ε α} {r : Except ε α} (h : x d = (r, d')) (wrap : ε → ε') :
    x.mapError wrap d = (r.mapError wrap, d') := by
  simp only [mapError, h]

@[simp] lemma ofExcept_ok_bind (a : α) (f : α → Attempt ε β) :
    (ofExcept (.ok a) >>= f) d = f a d := rfl

@[simp] lemma ofExcept_error_bind (e : ε) (f : α → Attempt ε β) :
    (ofExcept (.error e) >>= f) d = (.error e, d) := rfl

@[simp] lemma disk_bind (f : Disk → Attempt ε β) : (disk >>= f) d = f d d := rfl

end Attempt

namespace Workspace

variable {s : Workspace} {d d' : Disk} {w : Wallet} {now : Instant} {op : Operation} {α : Type}

/-- A save fails only with a file operation. -/
lemma save_cases (s : Storage) (w : Wallet) (d : Disk) :
    (∃ d', s.save w d = (.ok (), d')) ∨ ∃ cause d', s.save w d = (.error (.io cause), d') := by
  unfold Storage.save Storage.saveWith
  rcases runPlan none (s.savePlan w d) d with ⟨_ | _, d'⟩
  · exact .inr ⟨_, _, rfl⟩
  · exact .inl ⟨_, rfl⟩

lemma save_of_saved (writable : s.writable = true) {r : Except Storage.Error Unit}
    (saved : s.storage.save w d = (r, d')) :
    ({ s with wallet := w } : Workspace).save d = (r.mapError .storage, d') := by
  unfold save
  rw [if_pos writable]
  exact Attempt.mapError_of_eq saved Failure.storage

/-- What is committed is saved, unless the ledger refused. -/
lemma commit_cases (writable : s.writable = true) (out : Except Ledger.Error α × Wallet)
    (d : Disk) :
    (∃ e, out.1 = .error e ∧ e.isRefusal = true ∧ s.commit out d = (.error (.ledger e), d)) ∨
    (∃ cause d', s.storage.save out.2 d = (.error (.io cause), d') ∧
      s.commit out d = (.error (.storage (.io cause)), d')) ∨
    ∃ d', s.storage.save out.2 d = (.ok (), d') ∧
      ((∃ a, out.1 = .ok a ∧ s.commit out d = (.ok a, d')) ∨
        ∃ e, out.1 = .error e ∧ e.isRefusal = false ∧
          s.commit out d = (.error (.ledger e), d')) := by
  obtain ⟨answer, w⟩ := out
  rcases save_cases s.storage w d with ⟨d', saved⟩ | ⟨cause, d', failed⟩
  · have saves := save_of_saved writable saved
    cases answer with
    | ok a =>
      refine .inr (.inr ⟨d', saved, .inl ⟨a, rfl, ?_⟩⟩)
      simp only [commit]
      exact Attempt.bind_ok saves
    | error e =>
      cases refusal : e.isRefusal with
      | true => exact .inl ⟨e, rfl, refusal, by simp only [commit, refusal]; rfl⟩
      | false =>
        refine .inr (.inr ⟨d', saved, .inr ⟨e, rfl, refusal, ?_⟩⟩)
        simp only [commit, refusal]
        exact Attempt.bind_ok saves
  · have saves := save_of_saved writable failed
    cases answer with
    | ok a =>
      refine .inr (.inl ⟨cause, d', failed, ?_⟩)
      simp only [commit]
      exact Attempt.bind_error saves
    | error e =>
      cases refusal : e.isRefusal with
      | true => exact .inl ⟨e, rfl, refusal, by simp only [commit, refusal]; rfl⟩
      | false =>
        refine .inr (.inl ⟨cause, d', failed, ?_⟩)
        simp only [commit, refusal]
        exact Attempt.bind_error saves

end Workspace

namespace Works

variable {s : Workspace} {now : Instant} {d : Disk} {op : Operation} {α : Type}

/-- An operation that is committed, with some lines that tell of it. -/
lemma of_commit (reply : α → Reply) (writable : s.writable = true)
    {out : Except Ledger.Error α × Wallet}
    (applied : s.wallet.apply now op = (out.1.map reply, out.2))
    {tell : α → Attempt Failure (List String)}
    (tells : ∀ a, out.1 = .ok a → ∀ d, ∃ lines, tell a d = (.ok lines, d)) :
    Works s now d (some op) ((s.commit out >>= tell) d) := by
  have answer : (s.wallet.apply now op).1 = out.1.map reply := congrArg Prod.fst applied
  have wallet_eq : (s.wallet.apply now op).2 = out.2 := congrArg Prod.snd applied
  rcases s.commit_cases writable out d with ⟨e, error, refusal, commits⟩ |
    ⟨cause, d', unsaved, commits⟩ | ⟨d', saved, ⟨a, ok, commits⟩ | ⟨e, error, tried, commits⟩⟩
  · rw [Attempt.bind_error commits]
    exact .refused (by rw [answer, error]; rfl) refusal
  · rw [Attempt.bind_error commits]
    exact .unsaved (wallet_eq ▸ unsaved)
  · obtain ⟨lines, told⟩ := tells a ok d'
    rw [Attempt.bind_ok commits, told]
    have replied : (s.wallet.apply now op).1 = .ok (reply a) := by rw [answer, ok]; rfl
    exact .done replied (wallet_eq ▸ saved)
  · rw [Attempt.bind_error commits]
    exact .failed (by rw [answer, error]; rfl) tried (wallet_eq ▸ saved)

/-- A caller without a key is turned away. -/
lemma of_requireKey {caller : Address} (asks : op.caller? = some caller)
    {rest : Unit → Attempt Failure (List String)} (works : Works s now d (some op) (rest () d)) :
    Works s now d (some op) ((s.requireKey caller >>= rest) d) := by
  cases found : s.keystore.load caller d with
  | error e =>
    have required : s.requireKey caller d = (.error (.keystore e), d) := by
      rw [Workspace.requireKey, Attempt.disk_bind, found]
      rfl
    rw [Attempt.bind_error required]
    exact .keyless asks found
  | ok key =>
    have required : s.requireKey caller d = (.ok (), d) := by
      rw [Workspace.requireKey, Attempt.disk_bind, found]
      rfl
    rw [Attempt.bind_ok required]
    exact works

lemma of_fund (writable : s.writable = true) (source amount : String) :
    Works s now d (Command.fund source amount).operation?
      (Command.fundWallet s now source amount d) := by
  simp only [Command.operation?, Command.fundWallet]
  cases unread : Command.readAddress source with
  | error e => exact .unread (Command.readAddress_ne_ledger unread)
  | ok source =>
    cases unread : Command.readAmount amount with
    | error e => exact .unread (Command.readAmount_ne_ledger unread)
    | ok amount =>
      simp only [Attempt.ofExcept_ok_bind]
      by_cases zero : amount = 0
      · rw [if_pos zero, if_pos zero]
        exact .unread nofun
      · rw [if_neg zero, if_neg zero]
        rcases Workspace.save_cases s.storage (s.wallet.deposit now source amount) d with
          ⟨d', saved⟩ | ⟨cause, d', failed⟩
        · rw [Attempt.bind_ok (Workspace.save_of_saved writable saved)]
          exact .done rfl saved
        · rw [Attempt.bind_error (Workspace.save_of_saved writable failed)]
          exact .unsaved failed

lemma of_submit (writable : s.writable = true) (owner destination value : String)
    (data : Option String) : Works s now d (Command.submit owner destination value data).operation?
      (Command.submitCall s now owner destination value data d) := by
  simp only [Command.operation?, Command.submitCall]
  cases unread : Command.readAddress owner with
  | error e => exact .unread (Command.readAddress_ne_ledger unread)
  | ok owner =>
    cases unread : Command.readAddress destination with
    | error e => exact .unread (Command.readAddress_ne_ledger unread)
    | ok destination =>
      cases unread : Command.readAmount value with
      | error e => exact .unread (Command.readAmount_ne_ledger unread)
      | ok value =>
        cases unread : Command.readPayload data with
        | error e => exact .unread (Command.readPayload_ne_ledger unread)
        | ok data =>
          simp only [Attempt.ofExcept_ok_bind]
          refine of_requireKey rfl (of_commit .submitted writable rfl ?_)
          -- what was submitted can be shown
          intro index submitted d
          have transition := Ledger.Transition.of_apply Treasury.dispatcher s.wallet.ledger
            s.wallet.treasury now (.submit owner ⟨destination, value, data⟩)
          obtain ⟨t, found⟩ := transition.exists_of_submitted
            (congrArg (Except.map Reply.submitted) submitted)
          have shown : (s.wallet.submit now owner ⟨destination, value, data⟩).2.ledger.transaction
              index = .ok t := by
            have found : (s.wallet.submit now owner
                ⟨destination, value, data⟩).2.ledger.transactions[index]? = some t := found
            rw [Ledger.transaction, found]
          rw [shown]
          exact ⟨_, rfl⟩

lemma of_confirm (writable : s.writable = true) (owner : String) (index : UInt64) :
    Works s now d (Command.confirm owner index).operation?
      (Command.confirmTransaction s now owner index.toNat d) := by
  simp only [Command.operation?, Command.confirmTransaction]
  cases unread : Command.readAddress owner with
  | error e => exact .unread (Command.readAddress_ne_ledger unread)
  | ok owner =>
    rw [Attempt.ofExcept_ok_bind]
    refine of_requireKey rfl (of_commit .confirmed writable rfl ?_)
    exact fun outcome _ d => ⟨_, rfl⟩

lemma of_revoke (writable : s.writable = true) (owner : String) (index : UInt64) :
    Works s now d (Command.revoke owner index).operation?
      (Command.revokeConfirmation s now owner index.toNat d) := by
  simp only [Command.operation?, Command.revokeConfirmation]
  cases unread : Command.readAddress owner with
  | error e => exact .unread (Command.readAddress_ne_ledger unread)
  | ok owner =>
    rw [Attempt.ofExcept_ok_bind]
    refine of_requireKey rfl (of_commit .revoked writable rfl ?_)
    exact fun left _ d => ⟨_, rfl⟩

end Works

namespace Command

/-- Each of the four commands works on the ledger, with its lock held. -/
lemma Operates.exists_work {c : Command} (h : c.Operates) (env : Environment) (dataDir : Path) :
    ∃ work, c.run env dataDir = onLedger env dataDir true work ∧
      ∀ s d, s.writable = true → Works s env.now d c.operation? (work s d) := by
  cases h with
  | fund => exact ⟨_, rfl, fun s d writable => .of_fund writable _ _⟩
  | submit => exact ⟨_, rfl, fun s d writable => .of_submit writable _ _ _ _⟩
  | confirm => exact ⟨_, rfl, fun s d writable => .of_confirm writable _ _⟩
  | revoke => exact ⟨_, rfl, fun s d writable => .of_revoke writable _ _⟩

end Command

end Quorum
