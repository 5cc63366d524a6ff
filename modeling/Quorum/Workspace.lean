import Quorum.Command.Failure
import Quorum.Lock

/-!
# Workspaces

A data directory at work: the wallet as it was loaded, with the files that it came from. Only a
workspace whose lock is held can be saved.
-/

namespace Quorum

open Command (Failure)

structure Workspace where
  wallet : Wallet
  storage : Storage
  keystore : Keystore
  /-- Whether the lock of the data directory is held. -/
  writable : Bool

namespace Workspace

/-- The keys of the owners, in a directory of their own. -/
def keystoreOf (dataDir : Path) : Keystore :=
  ⟨Path.join dataDir "keys"⟩

/-- The keystore of a data directory, which is made if needed. -/
def openKeystore (dataDir : Path) : Attempt Failure Keystore := do
  (keystoreOf dataDir).prepare.mapError .keystore
  return keystoreOf dataDir

/-- The storage of a data directory that holds a ledger. -/
def findLedger (dataDir : Path) : Attempt Failure Storage := do
  let storage : Storage := { dataDir := dataDir }
  storage.prepare.mapError .storage
  if storage.hasLedger (← Attempt.disk) then return storage else .fail (.noLedger dataDir)

/-- Opens a data directory that holds a ledger. -/
def load (dataDir : Path) (writable : Bool) : Attempt Failure Workspace := do
  let storage ← findLedger dataDir
  let wallet ← .ofExcept ((storage.load (← Attempt.disk)).mapError .storage)
  let keystore ← openKeystore dataDir
  return { wallet, storage, keystore, writable }

def save (s : Workspace) : Attempt Failure Unit :=
  if s.writable then (s.storage.save s.wallet).mapError .storage else .fail .readOnly

/-- Only an owner whose key is at hand can act. -/
def requireKey (s : Workspace) (owner : Address) : Attempt Failure Unit := do
  discard <| Attempt.ofExcept ((s.keystore.load owner (← Attempt.disk)).mapError .keystore)

/-- Keeps what an operation did to the wallet: everything but a refusal is saved, a failed call
as well as a success. -/
def commit {α : Type} (s : Workspace) (out : Except Ledger.Error α × Wallet) :
    Attempt Failure α := do
  let s := { s with wallet := out.2 }
  match out.1 with
  | .ok a =>
    s.save
    return a
  | .error e =>
    unless e.isRefusal do s.save
    .fail (.ledger e)

end Workspace

end Quorum
