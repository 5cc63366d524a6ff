import Quorum.Proofs.Server.Order

/-!
# Runs of a server

A server takes up tasks one after the other: orders, and deposits, for which nobody signs. The
ledger sees of a task at most one operation, and whatever operations keep true of a ledger stays
true of the ledger of a server.
-/

namespace Quorum.Server

open Ledger (Invariant Operation)
open Time (Instant)

/-- What a server is asked to do. -/
inductive Task where
  | order (o : Order)
  | deposit (source : Address) (amount : Amount)

/-- Takes up a task, at its time and on a device that may fail. -/
def serve (s : Server) (fault : Option Fault) (now : Instant) (d : Disk) : Task → Server × Disk
  | .order o =>
    let out := s.handle fault now d o
    (out.server, out.disk)
  | .deposit source amount =>
    let out := s.deposit fault now d source amount
    (out.server, out.disk)

/-- The server and the disk after some tasks. -/
def run (s : Server) (d : Disk) : List (Option Fault × Instant × Task) → Server × Disk
  | [] => (s, d)
  | (fault, now, task) :: tasks =>
    let out := s.serve fault now d task
    out.1.run out.2 tasks

/-- A task with the server that takes it up, as it is before. -/
structure Visit where
  before : Server
  task : Task

/-- The tasks of a run, in their order. -/
def visits (s : Server) (d : Disk) : List (Option Fault × Instant × Task) → List Visit
  | [] => []
  | (fault, now, task) :: tasks =>
    let out := s.serve fault now d task
    ⟨s, task⟩ :: out.1.visits out.2 tasks

/-! ### What a task comes to -/

/-- The server does what the task asks for, and therefore saves its wallet. -/
def Task.Taken (w : Wallet) : Task → Prop
  | .order o => o.caller? w ≠ none
  | .deposit _ amount => amount ≠ 0

/-- The operation that a task leads to, and the nonces that are noted before it. -/
inductive Task.LeadsTo (w : Wallet) : Task → Operation → Nonces → Prop
  | order {o : Order} {caller : Address} {ask : Address → Operation} {nonces : Nonces}
      (passes : o.Passes w caller ask nonces) : LeadsTo w (.order o) (ask caller) nonces
  | deposit {source : Address} {amount : Amount} (positive : amount ≠ 0) :
      LeadsTo w (.deposit source amount) (.deposit source amount) w.nonces

/-- The server after an operation of its wallet, for which some nonces are noted. -/
def after (s : Server) (now : Instant) (op : Operation) (nonces : Nonces) : Server :=
  { s with wallet := ({ s.wallet with nonces }.apply now op).2 }

/-- What becomes of a server and its disk with a task: nothing happens, or the wallet carries out
one operation and is saved. -/
inductive Serves (s : Server) (fault : Option Fault) (now : Instant) (d : Disk) (task : Task) :
    Server × Disk → Prop
  | idle (ignored : ¬ task.Taken s.wallet) : Serves s fault now d task (s, d)
  | acts {op : Operation} {nonces : Nonces} (leads : task.LeadsTo s.wallet op nonces) :
      Serves s fault now d task (s.after now op nonces, (s.after now op nonces).keep fault d)

variable {s : Server} {fault : Option Fault} {now : Instant} {d : Disk} {task : Task}
  {p : Ledger → Prop}

lemma Task.LeadsTo.taken {op : Operation} {nonces : Nonces} (h : task.LeadsTo s.wallet op nonces) :
    task.Taken s.wallet := by
  cases h with
  | order passes =>
    have passed := Order.caller?_eq_some_iff.mpr ⟨_, _, passes⟩
    simp [Task.Taken, passed]
  | deposit positive => exact positive

theorem Serves.of_serve (s : Server) (fault : Option Fault) (now : Instant) (d : Disk)
    (task : Task) : Serves s fault now d task (s.serve fault now d task) := by
  cases task with
  | order o =>
    have handles := Handles.of_handle s fault now d o
    simp only [serve]
    generalize s.handle fault now d o = out at handles
    cases handles with
    | turnsAway fails => exact .idle fun taken => taken fails
    | @grants caller ask nonces w answer passes done =>
      have after : s.after now (ask caller) nonces = { s with wallet := w } := by rw [after, done]
      rw [← after]
      exact .acts (.order passes)
  | deposit source amount =>
    simp only [serve, Server.deposit]
    split
    · rename_i zero
      exact .idle fun taken => taken zero
    · rename_i positive
      exact .acts (.deposit positive)

/-! ### The ledger of a server -/

lemma ledger_after (s : Server) (now : Instant) (op : Operation) (nonces : Nonces) :
    (s.after now op nonces).wallet.ledger
      = (s.wallet.ledger.apply Treasury.dispatcher s.wallet.treasury now op).ledger :=
  Wallet.ledger_apply ..

lemma Invariant.serve (hp : Invariant p) (start : p s.wallet.ledger) :
    p (s.serve fault now d task).1.wallet.ledger := by
  have serves := Serves.of_serve s fault now d task
  generalize s.serve fault now d task = out at serves ⊢
  cases serves with
  | idle => exact start
  | @acts op nonces =>
    rw [ledger_after]
    exact hp.apply start now op

/-- A server ends a run with every invariant that its ledger starts with. -/
lemma Invariant.server_run (hp : Invariant p) (start : p s.wallet.ledger)
    (tasks : List (Option Fault × Instant × Task)) : p (s.run d tasks).1.wallet.ledger := by
  induction tasks generalizing s d with
  | nil => exact start
  | cons t tasks ih => exact ih (Invariant.serve hp start)

end Quorum.Server
