import Quorum.Ledger.Json
import Quorum.Wallet

/-!
# JSON form of wallets

The ledger, the balances of the treasury and the nonces. The code registered with the treasury is
not written, so that a wallet that is read has none.
-/

namespace Quorum

open Json

/-! ### Treasuries -/

namespace Treasury

def toJson (t : Treasury) : Value :=
  .object [("balances", t.balances.toJson Amount.toJson)]

def shape : Shape := { what := "struct Treasury", fields := ["balances"] }

def decode : Decoder Treasury :=
  Json.record shape none (fun _ t _ => (AddressMap.decode amount t).map some)
    fun balances => (need "balances" balances).map ofBalances

end Treasury

/-! ### Nonces -/

namespace Nonces

def toJson (n : Nonces) : Value :=
  n.last.toJson fun nonce => .natural nonce.toNat

def decode : Decoder Nonces :=
  fun t => (AddressMap.decode Json.word t).map Nonces.mk

end Nonces

/-! ### Wallets -/

namespace Wallet

def toJson (w : Wallet) : Value :=
  .object [("ledger", w.ledger.toJson), ("treasury", w.treasury.toJson),
    ("nonces", w.nonces.toJson)]

/-- The fields of a wallet, as far as they were read; without nonces there are none. -/
structure Draft where
  ledger : Option Ledger := none
  treasury : Option Treasury := none
  nonces : Nonces := .empty

def shape : Shape where
  what := "struct MultisigWallet"
  fields := ["ledger", "treasury", "nonces"]
  needed := 2

def Draft.set (index : Nat) (t : Tree) (draft : Draft) : Except Problem Draft :=
  match index with
  | 0 => (Ledger.decode t).map fun v => { draft with ledger := some v }
  | 1 => (Treasury.decode t).map fun v => { draft with treasury := some v }
  | _ => (Nonces.decode t).map fun v => { draft with nonces := v }

def Draft.finish (draft : Draft) : Except Problem Wallet := do
  let ledger ← need "ledger" draft.ledger
  let treasury ← need "treasury" draft.treasury
  .ok ⟨ledger, treasury, draft.nonces⟩

def decode : Decoder Wallet :=
  Json.record shape {} Draft.set Draft.finish

/-- Reads a wallet from a text. -/
def ofText (s : String) : Except Problem Wallet :=
  decodeText decode s

end Wallet

end Quorum
