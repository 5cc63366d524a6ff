import Quorum.Proofs.Ledger.History
import Quorum.Proofs.Ledger.Threshold
import Quorum.Proofs.Treasury.Balance
import Quorum.Proofs.Wallet.Json
import Quorum.Proofs.Wallet.Run

/-!
# Every wallet can be read back

Whatever a program does with a wallet, be it new or read from a text, both texts of the wallet can be
read, and tell all of it but the code that is registered with its treasury.
-/

namespace Quorum

open Time (Instant)

namespace Ledger

/-! ### Ledgers that a machine can hold -/

/-- What a machine whose words have 64 bits can hold: words number the entries of both lists. -/
structure Held (l : Ledger) : Prop where
  transactions : l.transactions.length ≤ UInt64.size
  events : l.events.length ≤ UInt64.size

/-- A ledger that outgrew the machine stays so. -/
lemma invariant_not_held : Invariant fun l => ¬ l.Held := by
  intro σ d l st now op out attempts h large held
  have grown := h.growsInto
  exact large ⟨Nat.le_trans grown.length_le held.transactions,
    Nat.le_trans grown.events.length_le held.events⟩

end Ledger

/-! ### Treasuries without code -/

/-- No code is registered, nor was any called. -/
def Treasury.Bare (t : Treasury) : Prop :=
  t.targets = .empty ∧ t.receipts = []

namespace Treasury

variable {t : Treasury}

lemma Bare.deposit (h : t.Bare) (a : Address) (amount : Amount) : (t.deposit a amount).Bare := h

/-- Without code, calls only change balances. -/
lemma Bare.dispatch (h : t.Bare) (source : Address) (call : Call) :
    (t.dispatch source call).2.Bare := by
  simp only [Treasury.dispatch, forward_of_codeless h.1]
  split
  · exact h
  · unfold transfer
    split
    · exact h
    · exact h

end Treasury

namespace Wallet

variable {w : Wallet}

/-- An operation registers no code. -/
lemma bare_apply {now : Instant} {op : Ledger.Operation} (h : w.treasury.Bare) :
    (w.apply now op).2.treasury.Bare := by
  by_cases moves : ∃ source amount, op = .deposit source amount
  · obtain ⟨source, amount, rfl⟩ := moves
    exact h.deposit _ _
  · rw [apply_eq_after fun source amount asked => moves ⟨source, amount, asked⟩]
    have transition := Ledger.Transition.of_apply Treasury.dispatcher w.ledger w.treasury now op
    exact transition.keeps (fun _ bare source call => bare.dispatch source call) h

/-- The text of a wallet without code tells all of it. -/
lemma stored_eq_iff : w.stored = w ↔ w.treasury.Bare := by
  obtain ⟨ledger, ⟨balances, targets, receipts⟩, nonces⟩ := w
  simp only [stored, Treasury.ofBalances, Treasury.Bare, mk.injEq, Treasury.mk.injEq, true_and,
    and_true]
  exact and_congr eq_comm eq_comm

/-! ### Reading back -/

/-- The wallets that a program can have: new ones, those that were read, and what becomes of them as
operations are carried out, code is registered, nonces are noted and funds are credited. -/
inductive Reachable : Wallet → Prop
  | created (owners : OwnerSet) : Reachable (create owners)
  | read {s : String} {w : Wallet} (accepted : ofText s = .ok w) : Reachable w
  | acts {w : Wallet} (before : Reachable w) (now : Instant) (action : Action) :
      Reachable (w.act now action)
  | notes {w : Wallet} {caller : Address} {nonce : UInt64} {nonces : Nonces} (before : Reachable w)
      (fresh : w.nonces.accept caller nonce = .ok nonces) : Reachable { w with nonces }
  | credits {w : Wallet} (before : Reachable w) (a : Address) (amount : Amount) :
      Reachable { w with treasury := w.treasury.deposit a amount }

lemma Reachable.run (h : Reachable w) (actions : List (Instant × Action)) :
    Reachable (w.run actions) := by
  induction actions generalizing w with
  | nil => exact h
  | cons action actions ih => exact ih (h.acts action.1 action.2)

/-- A wallet can only reach ledgers that pass the checks of the reader, but for their size. -/
lemma Reachable.sound (h : Reachable w) : w.ledger.Valid ∧ w.ledger.Counts := by
  induction h with
  | created owners => exact ⟨Ledger.valid_create owners, Ledger.counts_create owners⟩
  | read accepted =>
    obtain ⟨storable, _⟩ := storable_of_ofText accepted
    exact ⟨storable.valid, storable.counts⟩
  | acts before now action ih =>
    obtain ⟨valid, counts⟩ := ih
    exact ⟨Invariant.act Ledger.invariant_valid valid action,
      Invariant.act Ledger.invariant_counts counts action⟩
  | notes before fresh ih => exact ih
  | credits before a amount ih => exact ih

lemma Reachable.storable (h : Reachable w) (held : w.ledger.Held) : w.ledger.Storable := by
  obtain ⟨valid, counts⟩ := h.sound
  exact Ledger.storable_of_counts valid counts held.transactions held.events

/-- Nothing but registered code is missing from the text of a wallet. -/
lemma toJson_stored (w : Wallet) : w.stored.toJson = w.toJson := rfl

/-- Both texts of a wallet are read as the same wallet, which has the ledger, the balances and the
nonces, but no registered code. It is written as it was read, and is the wallet itself if that was
read. -/
theorem read_back (reachable : Reachable w) (held : w.ledger.Held) :
    ∃ w', ofText w.toJson.compact = .ok w' ∧ ofText w.toJson.pretty = .ok w' ∧
      w'.ledger = w.ledger ∧ w'.address = w.address ∧
      w'.treasury.balances = w.treasury.balances ∧ w'.nonces = w.nonces ∧
      w'.treasury.targets = .empty ∧ w'.treasury.receipts = [] ∧
      w'.toJson.compact = w.toJson.compact ∧ w'.toJson.pretty = w.toJson.pretty ∧
      ∀ s, ofText s = .ok w → w' = w := by
  have read : decode w.toJson.tree = .ok w.stored := decode_toJson (reachable.storable held)
  refine ⟨w.stored, ?_, ?_, rfl, rfl, rfl, rfl, rfl, rfl, ?_, ?_, ?_⟩
  · exact (Json.decodeText_compact decode w.toJson).trans read
  · exact (Json.decodeText_pretty decode w.toJson).trans read
  · rw [toJson_stored]
  · rw [toJson_stored]
  · intro s accepted
    exact (storable_of_ofText accepted).2

/-- A wallet of two owners with funds, code for an address, and a nonce. -/
def busy : Wallet :=
  let funded := (create Ledger.couple).act .epoch (.operate (.deposit .zero ⟨7, by decide⟩))
  let coded := funded.act .epoch (.register .zero fun _ _ _ => none)
  { coded with nonces := ⟨AddressMap.empty.insert .zero 1⟩ }

/-- It is read back without the code. -/
theorem busy_read_back : Reachable busy ∧ busy.ledger.Held ∧ busy.treasury.hasTarget .zero ∧
    ∃ w', ofText busy.toJson.pretty = .ok w' ∧ w'.ledger = busy.ledger ∧
      ¬ w'.treasury.hasTarget .zero := by
  have funded :=
    (Reachable.created Ledger.couple).acts .epoch (.operate (.deposit .zero ⟨7, by decide⟩))
  have coded := funded.acts .epoch (.register .zero fun _ _ _ => none)
  have reachable : Reachable busy := coded.notes rfl
  have held : busy.ledger.Held := ⟨by decide, by decide⟩
  obtain ⟨w', _, pretty, ledger_eq, _, _, _, targets_eq, _⟩ := read_back reachable held
  refine ⟨reachable, held, rfl, w', pretty, ledger_eq, ?_⟩
  rw [Treasury.hasTarget, targets_eq]
  decide

end Wallet

end Quorum
