import Quorum.Request
import Quorum.Storage

/-!
# The server

A server holds a wallet and does what signed requests ask for. A request is refused, and changes
nothing, unless an owner signed it with a nonce above the owner's last one. A request that passes
uses up its nonce and leads to one save, whatever the ledger answers.
-/

namespace Quorum

open Time (Instant)

structure Server where
  wallet : Wallet
  storage : Storage

namespace Server

/-- Why a request is not granted. -/
inductive Refusal where
  | payload (cause : Hex.Error)
  /-- The path and the signed body name different transactions. -/
  | indexMismatch
  | unauthenticated (cause : AuthError)
  | notOwner (caller : Address)
  | staleNonce (cause : StaleNonce)
  | emptyDeposit
  | ledger (cause : Ledger.Error)
deriving DecidableEq

def Refusal.message : Refusal → String
  | .payload cause => "Invalid data: " ++ cause.message
  | .indexMismatch => "Signed index does not match path"
  | .unauthenticated cause => cause.message
  | .notOwner caller => (Ledger.Error.notOwner caller).message
  | .staleNonce cause => cause.message
  | .emptyDeposit => "Deposit amount must be positive"
  | .ledger cause => cause.message

/-! ### Actions -/

/-- What a signature can be for. -/
inductive Action where
  | submit
  | confirm
  | revoke
deriving DecidableEq, Repr

/-- The word that goes into the signed digest. -/
def Action.tag : Action → String
  | .submit => "submit"
  | .confirm => "confirm"
  | .revoke => "revoke"

/-! ### Signed requests -/

section Signed

variable {β α : Type} [RequestBody β]

/-- The owner who signed a request, and the wallet with the nonce used up. -/
def authenticate (w : Wallet) (action : Action) (r : Signed β) :
    Except Refusal (Address × Wallet) :=
  match r.verify action.tag with
  | .error e => .error (.unauthenticated e)
  | .ok caller =>
    if w.ledger.owners.contains caller then
      match w.nonces.accept caller (RequestBody.nonce r.body) with
      | .error e => .error (.staleNonce e)
      | .ok nonces => .ok (caller, { w with nonces })
    else .error (.notOwner caller)

/-- The answer to a request, with the server and the disk after it. -/
structure Handled (α : Type) where
  answer : Except Refusal α
  server : Server
  disk : Disk

/-- Saves the wallet on a device that may fail; the sender does not learn of it. -/
def keep (s : Server) (fault : Option Fault) (d : Disk) : Disk :=
  (s.storage.saveWith fault s.wallet d).2

/-- Carries out what a signed request asks for. -/
def perform (s : Server) (fault : Option Fault) (d : Disk) (action : Action) (r : Signed β)
    (operation : Wallet → Address → Except Ledger.Error α × Wallet) : Handled α :=
  match authenticate s.wallet action r with
  | .error e => ⟨.error e, s, d⟩
  | .ok (caller, wallet) =>
    let out := operation wallet caller
    let s := { s with wallet := out.2 }
    ⟨out.1.mapError .ledger, s, s.keep fault d⟩

end Signed

variable (s : Server) (fault : Option Fault) (now : Instant) (d : Disk)

/-- Proposes a call; answers its index. -/
def submit (r : Signed SubmitBody) : Handled Nat :=
  match Payload.parse r.body.data with
  | .error e => ⟨.error (.payload e), s, d⟩
  | .ok data =>
    s.perform fault d .submit r fun w caller =>
      w.submit now caller ⟨r.body.destination, r.body.value, data⟩

/-- Confirms the transaction that the path names. -/
def confirm (index : UInt64) (r : Signed IndexBody) : Handled Ledger.Confirmed :=
  if r.body.index ≠ index then ⟨.error .indexMismatch, s, d⟩
  else s.perform fault d .confirm r fun w caller => w.confirm now caller index.toNat

/-- Takes back a confirmation of the transaction that the path names; answers how many are left. -/
def revoke (index : UInt64) (r : Signed IndexBody) : Handled Nat :=
  if r.body.index ≠ index then ⟨.error .indexMismatch, s, d⟩
  else s.perform fault d .revoke r fun w caller => w.revoke now caller index.toNat

/-! ### Deposits -/

/-- Takes in funds, which anyone may send; answers the new balance. -/
def deposit (source : Address) (amount : Amount) : Handled Amount :=
  if amount = 0 then ⟨.error .emptyDeposit, s, d⟩
  else
    let s := { s with wallet := s.wallet.deposit now source amount }
    ⟨.ok s.wallet.balance, s, s.keep fault d⟩

/-- The server that takes up its work from the files of a data directory. -/
def start (storage : Storage) (d : Disk) : Except Storage.Error Server :=
  (storage.load d).map fun wallet => { wallet, storage }

end Server

end Quorum
