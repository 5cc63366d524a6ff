import Quorum.Proofs.Server.Run
import Quorum.Proofs.Storage.Save
import Quorum.Proofs.Wallet.Json

/-!
# The life of a server

Between any two tasks a server may be stopped and started again from its data directory. While its
saves succeed, it is started with what it had, less the code that was registered with its treasury.
-/

namespace Quorum.Server

open Storage (fileText)
open Time (Instant)

/-- A server and its disk, the tasks that it takes up, and the server and the disk after them. All
saves succeed, and the server is started anew as often as one likes. -/
inductive Life : Server → Disk → List Visit → Server → Disk → Prop
  | rests {s : Server} {d : Disk} : Life s d [] s d
  | serves {s s' : Server} {d d' : Disk} {fault : Option Fault} {now : Instant} {task : Task}
      {visits : List Visit}
      (saved : task.Taken s.wallet →
        (s.storage.saveWith fault (s.serve fault now d task).1.wallet d).1 = .ok ())
      (later : Life (s.serve fault now d task).1 (s.serve fault now d task).2 visits s' d') :
      Life s d (⟨s, task⟩ :: visits) s' d'
  | restarts {s restarted s' : Server} {d d' : Disk} {visits : List Visit}
      (started : start s.storage d = .ok restarted) (later : Life restarted d visits s' d') :
      Life s d visits s' d'

variable {s s' : Server} {fault : Option Fault} {now : Instant} {d d' : Disk} {task : Task}
  {visits : List Visit}

/-! ### What a task leaves on the disk -/

lemma serve_of_not_taken (h : ¬ task.Taken s.wallet) : s.serve fault now d task = (s, d) := by
  have serves := Serves.of_serve s fault now d task
  generalize s.serve fault now d task = out at serves ⊢
  cases serves with
  | idle => rfl
  | acts leads => exact absurd leads.taken h

lemma disk_serve_of_taken (h : task.Taken s.wallet) :
    (s.serve fault now d task).2
      = (s.storage.saveWith fault (s.serve fault now d task).1.wallet d).2 := by
  have serves := Serves.of_serve s fault now d task
  generalize s.serve fault now d task = out at serves ⊢
  cases serves with
  | idle ignored => exact absurd h ignored
  | acts => rfl

lemma storage_serve : (s.serve fault now d task).1.storage = s.storage := by
  have serves := Serves.of_serve s fault now d task
  generalize s.serve fault now d task = out at serves ⊢
  cases serves <;> rfl

/-- A task that is not taken up leaves everything as it is. -/
lemma Life.ignores (now : Instant) (ignored : ¬ task.Taken s.wallet)
    (later : Life s d visits s' d') : Life s d (⟨s, task⟩ :: visits) s' d' := by
  have idle : s.serve none now d task = (s, d) := serve_of_not_taken ignored
  have later : Life (s.serve none now d task).1 (s.serve none now d task).2 visits s' d' := by
    rw [idle]
    exact later
  exact .serves (fun taken => absurd taken ignored) later

/-! ### What is on the disk -/

/-- The disk holds what the server would save. -/
structure Kept (s : Server) (d : Disk) : Prop where
  tidy : d.Tidy
  load_eq : s.storage.load d = (Wallet.ofText (fileText s.wallet)).mapError .serialization
  valid : s.wallet.ledger.Valid
  counts : s.wallet.ledger.Counts

lemma exists_of_start {storage : Storage} (started : start storage d = .ok s) :
    s.storage = storage ∧ storage.load d = .ok s.wallet := by
  unfold start at started
  cases loaded : storage.load d with
  | error e =>
    rw [loaded] at started
    cases started
  | ok w =>
    rw [loaded] at started
    cases started
    exact ⟨rfl, rfl⟩

/-- A server always works in the same data directory. -/
lemma Life.storage_eq (life : Life s d visits s' d') : s'.storage = s.storage := by
  induction life with
  | rests => rfl
  | serves saved later ih => rw [ih, storage_serve]
  | restarts started later ih => rw [ih, (exists_of_start started).1]

/-- A server that has just been started has what is on the disk. -/
lemma kept_of_start {storage : Storage} (tidy : d.Tidy) (started : start storage d = .ok s) :
    Kept s d := by
  obtain ⟨rfl, loaded⟩ := exists_of_start started
  obtain ⟨text, _, read⟩ := Storage.exists_of_load loaded
  obtain ⟨storable, bare⟩ := Wallet.storable_of_ofText read
  refine ⟨tidy, ?_, storable.valid, storable.counts⟩
  rw [loaded, Wallet.ofText_fileText, Wallet.decode_toJson storable, bare]
  rfl

lemma Kept.serve (kept : Kept s d)
    (saved : task.Taken s.wallet →
      (s.storage.saveWith fault (s.serve fault now d task).1.wallet d).1 = .ok ()) :
    Kept (s.serve fault now d task).1 (s.serve fault now d task).2 := by
  by_cases taken : task.Taken s.wallet
  · obtain ⟨text, tidy⟩ := Storage.read_of_save kept.tidy (saved taken)
    rw [← disk_serve_of_taken taken] at text tidy
    refine ⟨tidy, ?_, Invariant.serve Ledger.invariant_valid kept.valid,
      Invariant.serve Ledger.invariant_counts kept.counts⟩
    rw [storage_serve]
    exact Storage.load_of_read text
  · rw [serve_of_not_taken taken]
    exact kept

/-- Along its life, the disk of a server holds what the server would save. -/
theorem Life.kept (life : Life s d visits s' d') (kept : Kept s d) : Kept s' d' := by
  induction life with
  | rests => exact kept
  | serves saved later ih => exact ih (kept.serve saved)
  | restarts started later ih => exact ih (kept_of_start kept.tidy started)

/-- A server that is started anew has the owners and the nonces that it had. -/
lemma Kept.eq_of_start {restarted : Server} (kept : Kept s d)
    (started : start s.storage d = .ok restarted) :
    restarted.wallet.ledger.owners = s.wallet.ledger.owners ∧
      restarted.wallet.nonces = s.wallet.nonces := by
  obtain ⟨_, loaded⟩ := exists_of_start started
  rw [kept.load_eq, Wallet.ofText_fileText] at loaded
  cases read : Wallet.decode s.wallet.toJson.tree with
  | error p =>
    rw [read] at loaded
    cases loaded
  | ok w =>
    rw [read] at loaded
    cases loaded
    exact Wallet.eq_of_decode_toJson read

/-- A server can be started anew while its ledger counts no more than words can hold. -/
lemma Kept.start_eq_ok (kept : Kept s d)
    (transactions_fit : s.wallet.ledger.transactions.length ≤ UInt64.size)
    (events_fit : s.wallet.ledger.events.length ≤ UInt64.size) :
    start s.storage d = .ok { s with wallet := s.wallet.stored } := by
  have storable : s.wallet.ledger.Storable :=
    Ledger.storable_of_counts kept.valid kept.counts transactions_fit events_fit
  rw [start, kept.load_eq, Wallet.ofText_fileText, Wallet.decode_toJson storable]
  rfl

end Quorum.Server
