import Quorum.Proofs.Server.Effect
import Quorum.Proofs.Wallet.RoundTrip

/-!
# Acknowledged tasks

A server acknowledges a task as soon as its wallet has carried it out. If the save that follows
succeeds, the wallet in the data directory has the effect of the task, and the nonce that was used
up for it. But the answer does not tell how the save went, and a task that could not be saved is
acknowledged like any other; when the server is started again, it is forgotten.
-/

namespace Quorum.Server

open Ledger (Operation Reply)
open Storage (fileText)
open Time (Instant)

variable {s : Server} {fault : Option Fault} {now : Instant} {d : Disk} {task : Task}
  {op : Operation} {noted : Option (Address × UInt64)}

/-! ### Acknowledgements -/

/-- The task is answered with success. -/
def Acknowledges (s : Server) (fault : Option Fault) (now : Instant) (d : Disk) : Task → Prop
  | .order o => ∃ reply, (s.handle fault now d o).answer = .ok reply
  | .deposit source amount => ∃ balance, (s.deposit fault now d source amount).answer = .ok balance

/-- The operation that a task asks for, and the nonce that it uses up, with its owner. Nobody signs
for a deposit. -/
inductive Task.Asks : Task → Operation → Option (Address × UInt64) → Prop
  | order {o : Order} {caller : Address} {ask : Address → Operation} (asks : o.operation = .ok ask)
      (signed : o.signer = .ok caller) : Asks (.order o) (ask caller) (some (caller, o.nonce))
  | deposit {source : Address} {amount : Amount} :
      Asks (.deposit source amount) (.deposit source amount) none

/-- What is stored of a wallet after an operation that succeeded, for which a nonce was noted. -/
structure Contains (before : Wallet) (now : Instant) (op : Operation)
    (noted : Option (Address × UInt64)) (w : Wallet) : Prop where
  succeeded : ∃ reply, (before.apply now op).1 = .ok reply
  ledger_eq : w.ledger = (before.apply now op).2.ledger
  balances_eq : w.treasury.balances = (before.apply now op).2.treasury.balances
  last?_eq : ∀ a, w.nonces.last? a
    = (noted.bind fun n => if n.1 = a then some n.2 else none).or (before.nonces.last? a)

/-- What a server is left with after a task that succeeded. -/
structure Done (s : Server) (now : Instant) (task : Task) (s' : Server) (op : Operation)
    (noted : Option (Address × UInt64)) : Prop where
  asks : task.Asks op noted
  contains : Contains s.wallet now op noted s'.wallet
  storage_eq : s'.storage = s.storage

/-- A task that is acknowledged is done, and the wallet is handed to the storage. That the task is
acknowledged depends neither on the disk nor on the device. -/
lemma Acknowledges.exists_done (h : s.Acknowledges fault now d task) :
    (∃ op noted, s.Done now task (s.serve fault now d task).1 op noted) ∧
      (s.serve fault now d task).2
        = (s.storage.saveWith fault (s.serve fault now d task).1.wallet d).2 ∧
      ∀ fault' d', s.Acknowledges fault' now d' task := by
  cases task with
  | order o =>
    obtain ⟨reply, answer⟩ := h
    have elsewhere := fun fault' d' => handle_cases s fault' now d' o
    rcases handle_cases s fault now d o with
      ⟨e, _, refused⟩ | ⟨caller, ask, nonces, passes, granted⟩
    · rw [refused] at answer
      cases answer
    · rw [granted] at answer
      have effect : s.Effect fault now d caller o.nonce (ask caller) (s.handle fault now d o) := by
        rw [granted]
        exact passes.effect
      have succeeded := mapError_eq_ok_iff.mp answer
      refine ⟨⟨ask caller, some (caller, o.nonce), .order passes.asks passes.signed, ?_,
        effect.storage_eq⟩, effect.disk_eq, fun fault' d' => ?_⟩
      · refine ⟨⟨reply, succeeded⟩, effect.ledger_eq, ?_, fun a => ?_⟩
        · exact congrArg Treasury.balances effect.treasury_eq
        · simp only [serve, effect.last?_eq a, Option.bind_some]
          split <;> rfl
      · rcases elsewhere fault' d' with ⟨e, flaw, _⟩ | ⟨caller', ask', nonces', passes', granted'⟩
        · exact absurd flaw passes.not_flaw
        · -- it passes for the same caller, and asks for the same
          obtain rfl : caller' = caller := by
            have signed := passes'.signed
            rw [passes.signed] at signed
            exact (Except.ok.inj signed).symm
          obtain rfl : ask' = ask := by
            have asks := passes'.asks
            rw [passes.asks] at asks
            exact (Except.ok.inj asks).symm
          refine ⟨reply, ?_⟩
          rw [granted']
          exact answer
  | deposit source amount =>
    obtain ⟨balance, answer⟩ := h
    by_cases zero : amount = 0
    · simp only [deposit, if_pos zero] at answer
      cases answer
    · have deposited (fault : Option Fault) (d : Disk) : s.deposit fault now d source amount
          = ⟨.ok (s.wallet.deposit now source amount).balance,
            { s with wallet := s.wallet.deposit now source amount },
            ({ s with wallet := s.wallet.deposit now source amount } : Server).keep fault d⟩ := by
        simp only [deposit, if_neg zero]
      have served : s.serve fault now d (.deposit source amount)
          = ({ s with wallet := s.wallet.deposit now source amount },
            ({ s with wallet := s.wallet.deposit now source amount } : Server).keep fault d) := by
        simp only [serve, deposited]
      rw [served]
      refine ⟨⟨_, _, .deposit, ⟨⟨_, rfl⟩, rfl, rfl, fun a => rfl⟩, rfl⟩, rfl, fun fault' d' => ?_⟩
      exact ⟨_, congrArg Handled.answer (deposited fault' d')⟩

/-! ### What is kept -/

/-- The ledger of a server stays sound with every task. -/
lemma sound_serve (fault : Option Fault) (now : Instant) (d : Disk) (task : Task)
    (h : s.wallet.ledger.Valid ∧ s.wallet.ledger.Counts) :
    (s.serve fault now d task).1.wallet.ledger.Valid ∧
      (s.serve fault now d task).1.wallet.ledger.Counts :=
  ⟨Invariant.serve Ledger.invariant_valid h.1, Invariant.serve Ledger.invariant_counts h.2⟩

/-- A task is acknowledged whether or not the wallet can be saved. If it is saved, the wallet that
is loaded from the data directory after that has the effect of the task, and the nonce is used up.
-/
theorem acknowledged_kept_if_saved (tidy : d.Tidy) (reachable : Wallet.Reachable s.wallet)
    (acknowledged : s.Acknowledges fault now d task) :
    (∀ fault' d', s.Acknowledges fault' now d' task) ∧
    let out := s.serve fault now d task
    ∃ op noted, task.Asks op noted ∧
      ((s.storage.saveWith fault out.1.wallet d).1 = .ok () → out.1.wallet.ledger.Held →
        ∃ w, s.storage.load out.2 = .ok w ∧ Contains s.wallet now op noted w) := by
  obtain ⟨⟨op, noted, done⟩, disk_eq, always⟩ := acknowledged.exists_done
  refine ⟨always, op, noted, done.asks, fun saved held => ?_⟩
  obtain ⟨valid, counts⟩ := sound_serve fault now d task reachable.sound
  have storable := Ledger.storable_of_counts valid counts held.transactions held.events
  obtain ⟨text, _⟩ := Storage.read_of_save tidy saved
  refine ⟨(s.serve fault now d task).1.wallet.stored, ?_, ?_⟩
  · rw [disk_eq, Storage.load_of_read text, Wallet.ofText_fileText, Wallet.decode_toJson storable]
    rfl
  · obtain ⟨succeeded, ledger_eq, balances_eq, last?_eq⟩ := done.contains
    exact ⟨succeeded, ledger_eq, balances_eq, last?_eq⟩

/-! ### A deposit that is saved, and one that is not -/

/-- What somebody sends to the new server. -/
def gift : Task := .deposit signatory ⟨9, by decide⟩

lemma acknowledges_gift (fault : Option Fault) :
    newServer.Acknowledges fault .epoch newDisk gift := ⟨_, rfl⟩

lemma gift_asks (asks : gift.Asks op noted) :
    op = .deposit signatory ⟨9, by decide⟩ ∧ noted = none := by
  cases asks
  exact ⟨rfl, rfl⟩

/-- A deposit that is saved is there after a restart. -/
theorem gift_kept : newDisk.Tidy ∧ Wallet.Reachable newServer.wallet ∧
    newServer.Acknowledges none .epoch newDisk gift ∧
    ∃ w, newServer.storage.load (newServer.serve none .epoch newDisk gift).2 = .ok w ∧
      Contains newServer.wallet .epoch (.deposit signatory ⟨9, by decide⟩) none w := by
  have tidy : newDisk.Tidy := by simp [Disk.Tidy, newDisk]
  have reachable : Wallet.Reachable newServer.wallet := .created _
  obtain ⟨_, op, noted, asks, kept⟩ :=
    acknowledged_kept_if_saved tidy reachable (acknowledges_gift none)
  obtain ⟨rfl, rfl⟩ := gift_asks asks
  exact ⟨tidy, reachable, acknowledges_gift none,
    kept (saveWith_newDisk _) ⟨by decide, by decide⟩⟩

/-- The same deposit is acknowledged by a server whose device fails at the first operation of the
save. After a restart, nothing is left of it. -/
theorem gift_lost :
    let out := newServer.serve (some ⟨0, 0⟩) .epoch newDisk gift
    newServer.Acknowledges (some ⟨0, 0⟩) .epoch newDisk gift ∧
    start newServer.storage out.2 = .ok newServer ∧
    ¬ ∃ w op noted, gift.Asks op noted ∧ newServer.storage.load out.2 = .ok w ∧
      Contains newServer.wallet .epoch op noted w := by
  intro out
  have untouched : out.2 = newDisk := rfl
  obtain ⟨_, loaded⟩ := exists_of_start start_newDisk
  refine ⟨acknowledges_gift _, untouched ▸ start_newDisk, ?_⟩
  rintro ⟨w, op, noted, asks, found, contains⟩
  obtain ⟨rfl, rfl⟩ := gift_asks asks
  rw [untouched, loaded, Except.ok.injEq] at found
  -- the log of the wallet would tell of it
  have logged := congrArg (·.events.length) contains.ledger_eq
  subst found
  cases logged

end Quorum.Server
