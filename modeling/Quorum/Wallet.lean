import Quorum.Ledger
import Quorum.Nonces
import Quorum.Treasury

/-!
# Wallets

A wallet is a ledger with the treasury that carries out its calls, and the nonces of the requests
that its owners signed.
-/

namespace Quorum

open Time (Instant)

structure Wallet where
  ledger : Ledger
  treasury : Treasury
  nonces : Nonces

namespace Wallet

/-- A wallet without transactions and without funds. -/
def create (owners : OwnerSet) : Wallet := ⟨.create owners, .empty, .empty⟩

def address (w : Wallet) : Address :=
  w.ledger.address

/-- The funds that the wallet holds itself. -/
def balance (w : Wallet) : Amount :=
  w.treasury.balanceOf w.address

/-- Takes in funds. -/
def deposit (w : Wallet) (now : Instant) (source : Address) (amount : Amount) : Wallet :=
  { w with
    ledger := w.ledger.recordDeposit now source amount
    treasury := w.treasury.deposit w.address amount }

/-- The wallet after an operation on its ledger, with the answer. -/
def after {α : Type} (w : Wallet) (out : Ledger.Outcome Treasury α) :
    Except Ledger.Error α × Wallet :=
  (out.result, { w with ledger := out.ledger, treasury := out.dispatcher })

/-- Proposes a call; answers its index. -/
def submit (w : Wallet) (now : Instant) (caller : Address) (call : Call) :
    Except Ledger.Error Nat × Wallet :=
  w.after (w.ledger.submit Treasury.dispatcher w.treasury now caller call)

def confirm (w : Wallet) (now : Instant) (caller : Address) (index : Nat) :
    Except Ledger.Error Ledger.Confirmed × Wallet :=
  w.after (w.ledger.confirm Treasury.dispatcher w.treasury now caller index)

/-- Takes back a confirmation; answers how many are left. -/
def revoke (w : Wallet) (now : Instant) (caller : Address) (index : Nat) :
    Except Ledger.Error Nat × Wallet :=
  let (result, ledger) := w.ledger.revoke now caller index
  (result, { w with ledger })

end Wallet

end Quorum
