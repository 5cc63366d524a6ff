import Quorum.Command.Display

/-!
# Commands

The commands that administer a wallet from the machine that holds it. A command that writes the
ledger holds the lock of the data directory from before the ledger is read until after it is saved;
the lock is given back whatever comes of the command.
-/

namespace Quorum

open Command (Failure)

/-- What a command finds around it. -/
structure Environment where
  processes : Processes
  now : Time.Instant
  /-- Random bits for a new key. -/
  entropy : Nat

/-- A command with its arguments; those that denote something are still text. -/
inductive Command where
  | init (owners : List String) (required : UInt64) (force : Bool)
  | newKey (label : Option String)
  | importKey (privateKey : String) (label : Option String)
  | listKeys
  | fund (source amount : String)
  | submit (owner destination value : String) (data : Option String)
  | confirm (owner : String) (index : UInt64)
  | revoke (owner : String) (index : UInt64)
  | describe (index : UInt64)
  | pending
  | status
  | events (limit : UInt64)
  | restore (backup : UInt64)
deriving DecidableEq

namespace Command

/-! ### Arguments -/

def readAddress (text : String) : Except Failure Address :=
  (Address.parse text).mapError (.address text)

def readAmount (text : String) : Except Failure Amount :=
  (Amount.parseNative text).mapError .amount

/-- A payload; a missing one is empty. -/
def readPayload : Option String → Except Failure (List UInt8)
  | none => .ok []
  | some text => (Payload.parse text).mapError .payload

/-- The owner set that the arguments of a new wallet name. -/
def readOwners (owners : List String) (required : UInt64) : Except Failure OwnerSet := do
  let owners ← owners.mapM readAddress
  (OwnerSet.create owners required).mapError .owners

/-! ### Without a ledger -/

/-- Makes a new wallet. One that is there is replaced only by force, and becomes a backup. -/
def createWallet (env : Environment) (dataDir : Path) (owners : List String) (required : UInt64)
    (force : Bool) : Attempt Failure (List String) := do
  let owners ← .ofExcept (readOwners owners required)
  Lock.whileHeld env.processes dataDir .storage do
    let storage : Storage := { dataDir := dataDir }
    storage.prepare.mapError .storage
    if storage.hasLedger (← Attempt.disk) && !force then
      return ["⚠️  Ledger already exists at " ++ Text.quoted dataDir,
        "   Use --force to reinitialize (the current ledger becomes backup 0)"]
    else
      let wallet := Wallet.create owners
      (storage.save wallet).mapError .storage
      return ["✅ Ledger initialized!",
        "   📁 Data directory: " ++ Text.quoted dataDir,
        "   📍 Wallet address: " ++ wallet.address.render,
        "   🔐 Policy: " ++ owners.description]
        ++ owners.owners.map fun owner => "   └─ " ++ owner.render

def createKey (env : Environment) (dataDir : Path) (label : Option String) :
    Attempt Failure (List String) := do
  let keystore ← Workspace.openKeystore dataDir
  let key ← (keystore.createKey env.entropy label).mapError .keystore
  return ["🔐 New owner key created!",
    "   📍 Address: " ++ key.info.address.render,
    "   🔑 Public Key: " ++ key.info.publicKey.render]
    ++ (label.map ("   🏷️  Label: " ++ ·)).toList
    ++ ["", "   ⚠️  IMPORTANT: The private key is stored in the keys directory.",
      "   Back up this directory to avoid losing signing access!"]

def storeKey (dataDir : Path) (privateKey : String) (label : Option String) :
    Attempt Failure (List String) := do
  let keystore ← Workspace.openKeystore dataDir
  let key ← (keystore.importKey privateKey label).mapError .keystore
  return ["📥 Key imported: " ++ key.address.render]

def showKeys (dataDir : Path) : Attempt Failure (List String) := do
  let keystore ← Workspace.openKeystore dataDir
  let keys ← .ofExcept ((keystore.keys (← Attempt.disk)).mapError .keystore)
  return keyLines keys

/-! ### On a ledger -/

/-- The closing lines of a command that may have executed a transaction. -/
def executionLines (executed : Bool) : List String :=
  if executed then ["", "✅ Transaction executed"] else []

def fundWallet (s : Workspace) (now : Time.Instant) (source amount : String) :
    Attempt Failure (List String) := do
  let source ← .ofExcept (readAddress source)
  let amount ← .ofExcept (readAmount amount)
  if amount = 0 then .fail .emptyDeposit
  else
    let s := { s with wallet := s.wallet.deposit now source amount }
    s.save
    return ["💰 Deposited " ++ amount.formatNative ++ " from " ++ source.render,
      "   New balance: " ++ s.wallet.balance.formatNative]

def submitCall (s : Workspace) (now : Time.Instant) (owner destination value : String)
    (data : Option String) : Attempt Failure (List String) := do
  let owner ← .ofExcept (readAddress owner)
  let destination ← .ofExcept (readAddress destination)
  let value ← .ofExcept (readAmount value)
  let data ← .ofExcept (readPayload data)
  s.requireKey owner
  let out := s.wallet.submit now owner ⟨destination, value, data⟩
  let index ← s.commit out
  let t ← .ofExcept ((out.2.ledger.transaction index).mapError .ledger)
  return [s!"📤 Transaction {index} submitted",
    "   To: " ++ destination.render,
    "   Value: " ++ value.formatNative]
    ++ (if data.isEmpty then [] else ["   Data: " ++ Payload.render data])
    ++ ["   Confirmations: " ++ out.2.ledger.progress t.count]
    ++ executionLines t.executed

def confirmTransaction (s : Workspace) (now : Time.Instant) (owner : String) (index : Nat) :
    Attempt Failure (List String) := do
  let owner ← .ofExcept (readAddress owner)
  s.requireKey owner
  let outcome ← s.commit (s.wallet.confirm now owner index)
  return [s!"✍️  Transaction {index} confirmed by " ++ owner.short ++ " ("
      ++ s.wallet.ledger.progress outcome.confirmations ++ ")"]
    ++ executionLines outcome.executed

def revokeConfirmation (s : Workspace) (now : Time.Instant) (owner : String) (index : Nat) :
    Attempt Failure (List String) := do
  let owner ← .ofExcept (readAddress owner)
  s.requireKey owner
  let left ← s.commit (s.wallet.revoke now owner index)
  return [s!"↩️  Confirmation on transaction {index} revoked by " ++ owner.short ++ " ("
    ++ s.wallet.ledger.progress left ++ ")"]

def describeTransaction (s : Workspace) (index : Nat) : Attempt Failure (List String) := do
  let ledger := s.wallet.ledger
  let t ← .ofExcept ((ledger.transaction index).mapError .ledger)
  let confirmed ← .ofExcept ((ledger.confirmations index).mapError .ledger)
  return transactionLines ledger t confirmed

/-- Puts a backup of the same wallet in place of the ledger, which becomes a backup itself. -/
def restoreBackup (s : Workspace) (backup : Nat) : Attempt Failure (List String) := do
  let restored ← .ofExcept ((s.storage.loadBackup backup (← Attempt.disk)).mapError .storage)
  if restored.address ≠ s.wallet.address then .fail (.foreignBackup backup restored.address)
  else
    let s := { s with wallet := restored }
    s.save
    return [s!"📥 Restored ledger from backup {backup}",
      s!"   Transactions: {restored.ledger.transactions.length}"]

/-! ### Running -/

/-- Commands that only look at the ledger leave the data directory unlocked. -/
def isInspection : Command → Bool
  | .describe _ | .pending | .status | .events _ => true
  | _ => false

/-- Works on the ledger of a data directory, with the lock held if it may be written. -/
def onLedger (env : Environment) (dataDir : Path) (writable : Bool)
    (work : Workspace → Attempt Failure (List String)) : Attempt Failure (List String) :=
  if writable then
    Lock.whileHeld env.processes dataDir .storage (Workspace.load dataDir true >>= work)
  else Workspace.load dataDir false >>= work

/-- Runs a command; without `writable` the ledger cannot be saved. Yields the lines to print. -/
def runWith (env : Environment) (dataDir : Path) (writable : Bool) :
    Command → Attempt Failure (List String)
  | .init owners required force => createWallet env dataDir owners required force
  | .newKey label => createKey env dataDir label
  | .importKey privateKey label => storeKey dataDir privateKey label
  | .listKeys => showKeys dataDir
  | .fund source amount =>
    onLedger env dataDir writable fun s => fundWallet s env.now source amount
  | .submit owner destination value data =>
    onLedger env dataDir writable fun s => submitCall s env.now owner destination value data
  | .confirm owner index =>
    onLedger env dataDir writable fun s => confirmTransaction s env.now owner index.toNat
  | .revoke owner index =>
    onLedger env dataDir writable fun s => revokeConfirmation s env.now owner index.toNat
  | .describe index =>
    onLedger env dataDir writable fun s => describeTransaction s index.toNat
  | .pending =>
    onLedger env dataDir writable fun s => return pendingLines s.wallet.ledger
  | .status =>
    onLedger env dataDir writable fun s => return statusLines s (← Attempt.disk)
  | .events limit =>
    onLedger env dataDir writable fun s => return eventLines s.wallet.ledger limit.toNat
  | .restore backup =>
    onLedger env dataDir writable fun s => restoreBackup s backup.toNat

/-- Runs a command as it is meant to be run. -/
def run (env : Environment) (dataDir : Path) (c : Command) : Attempt Failure (List String) :=
  c.runWith env dataDir !c.isInspection

end Command

end Quorum
