import Quorum.Keystore
import Quorum.Ledger
import Quorum.Storage

/-!
# Failures of commands

A command fails for a reason of the part of the library that refused, or for one of its own.
-/

namespace Quorum.Command

inductive Failure where
  | storage (cause : Storage.Error)
  | keystore (cause : Keystore.Error)
  | ledger (cause : Ledger.Error)
  | owners (cause : OwnerSet.Error)
  | amount (cause : Amount.Error)
  | payload (cause : Hex.Error)
  | address (text : String) (cause : Address.Error)
  /-- There is no ledger in the data directory. -/
  | noLedger (dataDir : Path)
  /-- The ledger was opened without the lock. -/
  | readOnly
  | emptyDeposit
  /-- A backup holds the wallet of other owners. -/
  | foreignBackup (index : Nat) (wallet : Address)
deriving DecidableEq

namespace Failure

def message : Failure → String
  | .storage cause => cause.message
  | .keystore cause => cause.message
  | .ledger cause => cause.message
  | .owners cause => cause.message
  | .amount cause => cause.message
  | .payload cause => cause.message
  | .address text cause => "Invalid address '" ++ text ++ "': " ++ cause.message
  | .noLedger dataDir =>
    "No ledger found in " ++ Text.quoted dataDir ++ ". Create one with: multisig init"
  | .readOnly => "Ledger was opened read-only"
  | .emptyDeposit => "Deposit amount must be positive"
  | .foreignBackup index wallet =>
    s!"Backup {index} belongs to a different wallet ({wallet})"

/-- The failure with its kind and fields; one of the command itself is its quoted message. -/
def dump : Failure → String
  | .storage cause => cause.dump
  | .keystore cause => cause.dump
  | .ledger cause => cause.dump
  | .owners cause => cause.dump
  | .amount cause => cause.dump
  | .payload cause => cause.dump
  | own => Text.quoted own.message

end Failure

end Quorum.Command
