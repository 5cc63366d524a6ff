import Quorum.Main
import Quorum.Program
import Quorum.Proofs.Audit.Log
import Quorum.Proofs.Ledger.Execution
import Quorum.Proofs.Wallet.Failure
import Quorum.Server.Respond
import Quorum.Proofs.Treasury.Balance
import Quorum.Proofs.Wallet.Accounting
import Quorum.Proofs.Wallet.Conservation
import Quorum.Proofs.Audit.Deed
import Quorum.Proofs.Server.Order
import Quorum.Proofs.Server.Run
import Quorum.Proofs.Address.Json
import Quorum.Proofs.Ledger.Json
import Quorum.Proofs.Server.Authority
import Quorum.Proofs.Wallet.Json
import Quorum.Proofs.Disk.Files
import Quorum.Proofs.Server.Freshness
import Quorum.Proofs.Server.Effect
import Quorum.Proofs.Ledger.Coherence
import Quorum.Proofs.Wallet.RoundTrip
import Quorum.Proofs.Ledger.Alike
import Quorum.Proofs.Server.Intent
import Quorum.Proofs.Server.Restart
import Quorum.Proofs.Ledger.History
import Quorum.Proofs.Ledger.Status
import Quorum.Proofs.Ledger.Reads
import Quorum.Proofs.Ledger.Tally
import Quorum.Proofs.Wallet.Reads
import Quorum.Proofs.Wallet.Confluence
import Quorum.Proofs.Wallet.Retry
import Quorum.Proofs.Server.Durability
import Quorum.Proofs.Lock.Operation
import Quorum.Proofs.Lock.Crowd
import Quorum.Proofs.Lock.Acquire
import Quorum.Proofs.Lock.Exclusion
import Quorum.Proofs.Disk.Names
import Quorum.Proofs.Disk.Frame
import Quorum.Proofs.Disk.Move
import Quorum.Proofs.Storage.History
import Quorum.Proofs.Command.Work
import Quorum.Proofs.Command.Opening
import Quorum.Proofs.Command.Untouched
import Quorum.Proofs.Command.Refinement
import Quorum.Proofs.Request.Message
import Quorum.Proofs.Command.Restore
import Quorum.Proofs.Keystore.KeyFile
import Quorum.Proofs.Command.Key
import Quorum.Proofs.Storage.Wear
import Quorum.Proofs.Command.Undo
import Quorum.Proofs.Request.Agreement
import Quorum.Proofs.Crypto.BigEndian
import Quorum.Proofs.OwnerSet.Policy
import Quorum.Proofs.Command.Policy
import Quorum.Proofs.Text.Trim
import Quorum.Proofs.Text.Decimal
import Quorum.Proofs.Amount.Reading
import Quorum.Proofs.Amount.Format
import Quorum.Proofs.Amount.RoundTrip
import Quorum.Proofs.Address.Reading
import Quorum.Proofs.Payload.Reading
import Quorum.Proofs.OwnerSet.Reading
import Quorum.Proofs.Keystore.Contents
import Quorum.Proofs.Command.Locking
