import Mathlib.Data.List.Forall2
import Quorum.Proofs.Ledger.Operation
import Quorum.Wallet

/-!
# Ledgers that differ in time stamps

No operation looks at the time stamps of a ledger. Let `same` say which time stamps stand for each
other. Ledgers that are equal but for time stamps that stand for each other give the same answers,
and every operation leaves them so if the times at which it is carried out stand for each other, too.
-/

namespace List.Forall₂

variable {α β : Type} {r : α → β → Prop} {as : List α} {bs : List β}

/-- What stands at one position is related, too. -/
lemma rel_getElem? (h : Forall₂ r as bs) (i : Nat) : Option.Rel r as[i]? bs[i]? := by
  induction h generalizing i with
  | nil => exact .none
  | cons head tail ih =>
    cases i with
    | zero => exact .some head
    | succ i => simpa using ih i

lemma set (h : Forall₂ r as bs) {a : α} {b : β} (related : r a b) (i : Nat) :
    Forall₂ r (as.set i a) (bs.set i b) := by
  induction h generalizing i with
  | nil => exact .nil
  | cons head tail ih =>
    cases i with
    | zero => exact .cons related tail
    | succ i => exact .cons head (ih i)

end List.Forall₂

namespace Quorum

open List (Forall₂)
open Time (Instant)

variable {same : Instant → Instant → Prop} {now now' : Instant}

/-! ### Transactions -/

/-- A transaction with other time stamps, which stand for those that it has. -/
inductive Transaction.Alike (same : Instant → Instant → Prop) (t : Transaction) :
    Transaction → Prop
  | restamp {submittedAt : Instant} {executedAt : Option Instant}
      (submitted : same t.submittedAt submittedAt)
      (executed : Option.Rel same t.executedAt executedAt) :
      Alike same t { t with submittedAt, executedAt }

namespace Transaction

variable {t t' : Transaction}

lemma Alike.index_eq (h : t.Alike same t') : t'.index = t.index := by
  cases h
  rfl

lemma Alike.call_eq (h : t.Alike same t') : t'.call = t.call := by
  cases h
  rfl

lemma Alike.executed_eq (h : t.Alike same t') : t'.executed = t.executed := by
  cases h
  rfl

lemma Alike.confirmations_eq (h : t.Alike same t') : t'.confirmations = t.confirmations := by
  cases h
  rfl

lemma Alike.count_eq (h : t.Alike same t') : t'.count = t.count := by
  rw [count, h.confirmations_eq, count]

lemma alike_propose (index : Nat) (call : Call) (owner : Address) (now_same : same now now') :
    (propose index call owner now).Alike same (propose index call owner now') :=
  .restamp now_same .none

lemma Alike.confirm (h : t.Alike same t') (owner : Address) :
    (t.confirm owner).Alike same (t'.confirm owner) := by
  cases h with
  | restamp submitted executed => exact .restamp submitted executed

lemma Alike.revoke (h : t.Alike same t') (owner : Address) :
    (t.revoke owner).Alike same (t'.revoke owner) := by
  cases h with
  | restamp submitted executed => exact .restamp submitted executed

lemma Alike.markExecuted (h : t.Alike same t') (now_same : same now now') :
    (t.markExecuted now).Alike same (t'.markExecuted now') := by
  cases h with
  | restamp submitted executed => exact .restamp submitted (.some now_same)

lemma Alike.recordFailure (h : t.Alike same t') (reason : String) :
    (t.recordFailure reason).Alike same (t'.recordFailure reason) := by
  cases h with
  | restamp submitted executed => exact .restamp submitted executed

end Transaction

/-- An event with another time, which stands for the one that it has. -/
inductive EventRecord.Alike (same : Instant → Instant → Prop) (r : EventRecord) :
    EventRecord → Prop
  | restamp {time : Instant} (time_same : same r.time time) : Alike same r { r with time }

/-! ### Ledgers -/

namespace Ledger

variable {σ α β : Type} {d : Dispatcher σ} {l l' : Ledger} {st : σ}

/-- The ledgers differ at most in time stamps, and these stand for each other. -/
structure Alike (same : Instant → Instant → Prop) (l l' : Ledger) : Prop where
  owners_eq : l'.owners = l.owners
  transactions : Forall₂ (Transaction.Alike same) l.transactions l'.transactions
  events : Forall₂ (EventRecord.Alike same) l.events l'.events

/-- Every ledger is like itself. -/
lemma Alike.refl (same_refl : ∀ i, same i i) (l : Ledger) : l.Alike same l where
  owners_eq := rfl
  transactions := by
    refine List.forall₂_same.mpr fun t _ => .restamp (same_refl _) ?_
    cases t.executedAt with
    | none => exact .none
    | some i => exact .some (same_refl i)
  events := List.forall₂_same.mpr fun r _ => .restamp (same_refl _)

namespace Alike

lemma required_eq (h : l.Alike same l') : l'.required = l.required := by
  rw [required, h.owners_eq, required]

lemma address_eq (h : l.Alike same l') : l'.address = l.address := by
  rw [address, h.owners_eq, address]

/-- They have the same owners. -/
lemma contains_owners (h : l.Alike same l') (a : Address) :
    l'.owners.contains a = l.owners.contains a := by
  rw [h.owners_eq]

lemma length_transactions (h : l.Alike same l') :
    l'.transactions.length = l.transactions.length :=
  h.transactions.length_eq.symm

lemma record (h : l.Alike same l') (now_same : same now now') (event : Event) :
    (l.record now event).Alike same (l'.record now' event) where
  owners_eq := h.owners_eq
  transactions := h.transactions
  events := by
    rw [events_record, events_record, ← h.events.length_eq]
    exact List.rel_append h.events (.cons (.restamp now_same) .nil)

lemma replace (h : l.Alike same l') {t t' : Transaction} (ht : t.Alike same t') (index : Nat) :
    (l.replace index t).Alike same (l'.replace index t') where
  owners_eq := h.owners_eq
  transactions := h.transactions.set ht index
  events := h.events

lemma append (h : l.Alike same l') {t t' : Transaction} (ht : t.Alike same t') :
    Alike same { l with transactions := l.transactions ++ [t] }
      { l' with transactions := l'.transactions ++ [t'] } where
  owners_eq := h.owners_eq
  transactions := List.rel_append h.transactions (.cons ht .nil)
  events := h.events

/-- Alike ledgers have alike transactions at the same positions. -/
lemma transaction (h : l.Alike same l') (index : Nat) :
    (∃ e, l.transaction index = .error e ∧ l'.transaction index = .error e) ∨
    ∃ t t', l.transaction index = .ok t ∧ l'.transaction index = .ok t' ∧ t.Alike same t' := by
  have there := h.transactions.rel_getElem? index
  unfold Ledger.transaction
  generalize l.transactions[index]? = found, l'.transactions[index]? = found' at there
  cases there with
  | none => exact .inl ⟨_, rfl, rfl⟩
  | some ht => exact .inr ⟨_, _, rfl, rfl, ht⟩

lemma openTransaction (h : l.Alike same l') (index : Nat) :
    (∃ e, l.openTransaction index = .error e ∧ l'.openTransaction index = .error e) ∨
    ∃ t t', l.openTransaction index = .ok t ∧ l'.openTransaction index = .ok t' ∧
      t.Alike same t' := by
  have there := h.transactions.rel_getElem? index
  unfold Ledger.openTransaction
  generalize l.transactions[index]? = found, l'.transactions[index]? = found' at there
  cases there with
  | none => exact .inl ⟨_, rfl, rfl⟩
  | @some t t' ht =>
    simp only [ht.executed_eq]
    cases t.executed with
    | true => exact .inl ⟨_, rfl, rfl⟩
    | false => exact .inr ⟨_, _, rfl, rfl, ht⟩

end Alike

/-! ### Operations -/

/-- The outcomes give the same answer, and leave the same dispatcher and alike ledgers. -/
structure Outcome.Alike (same : Instant → Instant → Prop) (out out' : Outcome σ α) : Prop where
  result_eq : out'.result = out.result
  ledger : out.ledger.Alike same out'.ledger
  dispatcher_eq : out'.dispatcher = out.dispatcher

lemma Outcome.Alike.map {out out' : Outcome σ α} (h : out.Alike same out') (f : α → β) :
    (out.map f).Alike same (out'.map f) where
  result_eq := by rw [map_result, map_result, h.result_eq]
  ledger := h.ledger
  dispatcher_eq := h.dispatcher_eq

namespace Alike

lemma executeIfReady (h : l.Alike same l') (now_same : same now now') {t t' : Transaction}
    (ht : t.Alike same t') (index : Nat) :
    (l.executeIfReady d st now index t).Alike same (l'.executeIfReady d st now' index t') := by
  simp only [Ledger.executeIfReady, ht.executed_eq, ht.count_eq, ht.call_eq, h.required_eq,
    h.address_eq]
  split
  · exact ⟨rfl, h, rfl⟩
  · cases d.dispatch st l.address t.call with
    | mk result st' =>
      cases result with
      | ok => exact ⟨rfl, (h.replace (ht.markExecuted now_same) index).record now_same _, rfl⟩
      | error => exact ⟨rfl, (h.replace (ht.recordFailure _) index).record now_same _, rfl⟩

lemma submit (h : l.Alike same l') (now_same : same now now') (caller : Address) (call : Call) :
    (l.submit d st now caller call).Alike same (l'.submit d st now' caller call) := by
  simp only [Ledger.submit, h.contains_owners, h.length_transactions]
  split
  · exact ⟨rfl, h, rfl⟩
  · have proposed :=
      Transaction.alike_propose l.transactions.length call caller now_same
    have recorded := ((h.append proposed).record now_same
      (.submission l.transactions.length caller call.destination call.value)).record now_same
      (.confirmation l.transactions.length caller)
    exact (recorded.executeIfReady now_same proposed l.transactions.length).map _

lemma confirm (h : l.Alike same l') (now_same : same now now') (caller : Address) (index : Nat) :
    (l.confirm d st now caller index).Alike same (l'.confirm d st now' caller index) := by
  simp only [Ledger.confirm, h.contains_owners]
  split
  · exact ⟨rfl, h, rfl⟩
  · rcases h.openTransaction index with ⟨e, closed, closed'⟩ | ⟨t, t', opened, opened', ht⟩
    · simp only [closed, closed']
      exact ⟨rfl, h, rfl⟩
    · simp only [opened, opened', ht.confirmations_eq]
      split
      · exact ⟨rfl, h, rfl⟩
      · have confirmed := ht.confirm caller
        have recorded := (h.replace confirmed index).record now_same (.confirmation index caller)
        rw [confirmed.count_eq]
        exact (recorded.executeIfReady now_same confirmed index).map _

lemma revoke (h : l.Alike same l') (now_same : same now now') (caller : Address) (index : Nat) :
    (l'.revoke now' caller index).1 = (l.revoke now caller index).1 ∧
      (l.revoke now caller index).2.Alike same (l'.revoke now' caller index).2 := by
  simp only [Ledger.revoke, h.contains_owners]
  split
  · exact ⟨rfl, h⟩
  · rcases h.openTransaction index with ⟨e, closed, closed'⟩ | ⟨t, t', opened, opened', ht⟩
    · rw [closed, closed']
      exact ⟨rfl, h⟩
    · simp only [opened, opened', ht.confirmations_eq]
      split
      · have revoked := ht.revoke caller
        rw [revoked.count_eq]
        exact ⟨rfl, (h.replace revoked index).record now_same _⟩
      · exact ⟨rfl, h⟩

end Alike

/-! ### Reads -/

namespace Alike

lemma pending (h : l.Alike same l') :
    Forall₂ (Transaction.Alike same) l.pending l'.pending :=
  List.rel_filter (fun t t' ht => by simp [ht.executed_eq]) h.transactions

lemma countP_executed (h : l.Alike same l') :
    l'.transactions.countP (·.executed) = l.transactions.countP (·.executed) := by
  have executed : Forall₂ (Transaction.Alike same) (l.transactions.filter (·.executed))
      (l'.transactions.filter (·.executed)) :=
    List.rel_filter (fun t t' ht => by simp [ht.executed_eq]) h.transactions
  rw [List.countP_eq_length_filter, List.countP_eq_length_filter, executed.length_eq]

lemma confirmations (h : l.Alike same l') (index : Nat) :
    l'.confirmations index = l.confirmations index := by
  rcases h.transaction index with ⟨e, none, none'⟩ | ⟨t, t', found, found', ht⟩
  · simp only [Ledger.confirmations, none, none']
    rfl
  · simp only [Ledger.confirmations, found, found', Except.map, ht.confirmations_eq, h.owners_eq]

lemma status (h : l.Alike same l') : l'.status = l.status := by
  simp only [Ledger.status, h.countP_executed, h.address_eq, h.required_eq, h.owners_eq,
    h.length_transactions]

end Alike

end Ledger

/-! ### Wallets -/

namespace Wallet

variable {w w' : Wallet}

/-- The wallets differ at most in the time stamps of their ledgers, and these stand for each
other. -/
structure Alike (same : Instant → Instant → Prop) (w w' : Wallet) : Prop where
  ledger : w.ledger.Alike same w'.ledger
  treasury_eq : w'.treasury = w.treasury
  nonces_eq : w'.nonces = w.nonces

namespace Alike

lemma refl (same_refl : ∀ i, same i i) (w : Wallet) : w.Alike same w :=
  ⟨.refl same_refl w.ledger, rfl, rfl⟩

lemma balance_eq (h : w.Alike same w') : w'.balance = w.balance := by
  simp only [balance, address, h.treasury_eq, h.ledger.address_eq]

lemma withNonces (h : w.Alike same w') (nonces : Nonces) :
    Alike same { w with nonces } { w' with nonces } :=
  ⟨h.ledger, h.treasury_eq, rfl⟩

lemma after (h : w.Alike same w') {α : Type} {out out' : Ledger.Outcome Treasury α}
    (alike : out.Alike same out') :
    (w'.after out').1 = (w.after out).1 ∧ (w.after out).2.Alike same (w'.after out').2 :=
  ⟨alike.result_eq, alike.ledger, alike.dispatcher_eq, h.nonces_eq⟩

lemma submit (h : w.Alike same w') (now_same : same now now') (caller : Address) (call : Call) :
    (w'.submit now' caller call).1 = (w.submit now caller call).1 ∧
      (w.submit now caller call).2.Alike same (w'.submit now' caller call).2 := by
  rw [Wallet.submit, Wallet.submit, h.treasury_eq]
  exact h.after (h.ledger.submit now_same caller call)

lemma confirm (h : w.Alike same w') (now_same : same now now') (caller : Address) (index : Nat) :
    (w'.confirm now' caller index).1 = (w.confirm now caller index).1 ∧
      (w.confirm now caller index).2.Alike same (w'.confirm now' caller index).2 := by
  rw [Wallet.confirm, Wallet.confirm, h.treasury_eq]
  exact h.after (h.ledger.confirm now_same caller index)

lemma revoke (h : w.Alike same w') (now_same : same now now') (caller : Address) (index : Nat) :
    (w'.revoke now' caller index).1 = (w.revoke now caller index).1 ∧
      (w.revoke now caller index).2.Alike same (w'.revoke now' caller index).2 := by
  obtain ⟨answer, ledger⟩ := h.ledger.revoke now_same caller index
  exact ⟨answer, ledger, h.treasury_eq, h.nonces_eq⟩

lemma deposit (h : w.Alike same w') (now_same : same now now') (source : Address)
    (amount : Amount) : (w.deposit now source amount).Alike same (w'.deposit now' source amount) where
  ledger := h.ledger.record now_same _
  treasury_eq := by simp only [Wallet.deposit, address, h.treasury_eq, h.ledger.address_eq]
  nonces_eq := h.nonces_eq

end Alike

end Wallet

end Quorum
