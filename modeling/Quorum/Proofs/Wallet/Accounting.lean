import Quorum.Proofs.Audit.Log
import Quorum.Proofs.Ledger.Execution
import Quorum.Proofs.Treasury.Balance
import Quorum.Proofs.Wallet.Run

/-!
# Accounts

Transactions, log and balances are kept apart from each other, yet each tells the funds: every other
address holds what executed transactions paid to it, and the wallet holds what the log says came in
and did not go out. `Pays` says what an operation of the ledger tells about funds, `Transition.pays`
that the treasury moves just these.
-/

namespace Quorum

open Time (Instant)

/-! ### Funds told by a log -/

namespace Audit

/-- What is left after a call is paid for; none if the funds do not suffice. A call to the own
address costs nothing. -/
def spend? (own : Address) (call : Call) (funds : Nat) : Option Nat :=
  if call.destination = own then some funds
  else if call.value.units ≤ funds then some (funds - call.value.units)
  else none

/-- The funds after one more event, where `callAt?` knows the call of each transaction. -/
def fundsAfter? (own : Address) (callAt? : Nat → Option Call) (funds : Nat) : Event → Option Nat
  | .deposit _ amount => some (min (funds + amount.units) (amountBound - 1))
  | .execution index => (callAt? index).bind (spend? own · funds)
  | .submission .. | .confirmation .. | .revocation .. | .executionFailure .. => some funds

/-- The funds that a log tells of, read from its start; none if some call could not be paid for. -/
def funds? (own : Address) (callAt? : Nat → Option Call) (log : List Event) : Option Nat :=
  log.foldlM (fundsAfter? own callAt?) 0

variable {own : Address} {callAt? callAt?' : Nat → Option Call} {log : List Event} {funds : Nat}

lemma funds?_append (es : List Event) :
    funds? own callAt? (log ++ es)
      = (funds? own callAt? log).bind fun funds => es.foldlM (fundsAfter? own callAt?) funds := by
  rw [funds?, List.foldlM_append]
  rfl

/-- More known calls do not change what a log tells. -/
lemma funds?_mono (more : ∀ j call, callAt? j = some call → callAt?' j = some call)
    (h : funds? own callAt? log = some funds) : funds? own callAt?' log = some funds := by
  have after : ∀ e before now, fundsAfter? own callAt? before e = some now →
      fundsAfter? own callAt?' before e = some now := by
    intro e before now h
    cases e with
    | execution index =>
      obtain ⟨call, known, paid⟩ := Option.bind_eq_some_iff.mp h
      exact Option.bind_eq_some_iff.mpr ⟨call, more index call known, paid⟩
    | _ => exact h
  have along : ∀ (log : List Event) (start : Nat),
      log.foldlM (fundsAfter? own callAt?) start = some funds →
        log.foldlM (fundsAfter? own callAt?') start = some funds := by
    intro log
    induction log with
    | nil => exact fun start h => h
    | cons e log ih =>
      intro start h
      rw [List.foldlM_cons] at h ⊢
      obtain ⟨next, first, rest⟩ := Option.bind_eq_some_iff.mp h
      exact Option.bind_eq_some_iff.mpr ⟨next, after e start next first, ih next rest⟩
  exact along log 0 h

end Audit

/-! ### Funds told by transactions -/

/-- What an executed transaction paid to an address. -/
def Transaction.paidTo (t : Transaction) (x : Address) : Nat :=
  if t.executed ∧ t.call.destination = x then t.call.value.units else 0

namespace Ledger

open Audit (spend?)

variable {σ : Type} {d : Dispatcher σ} {l l' : Ledger} {st : σ} {now : Instant} {op : Operation}
  {index : Nat} {t t' : Transaction} {call : Call} {x : Address}

/-- The sum of the values of all executed transactions whose destination is an address. -/
def paidTo (l : Ledger) (x : Address) : Nat :=
  ((l.transactions.filter fun t => t.executed ∧ t.call.destination = x).map
    (·.call.value.units)).sum

/-- The funds of the wallet as the log tells them. -/
def funds? (l : Ledger) : Option Nat :=
  Audit.funds? l.address l.callAt? l.log

lemma paidTo_eq_sum (l : Ledger) (x : Address) :
    l.paidTo x = (l.transactions.map (·.paidTo x)).sum := by
  unfold paidTo
  induction l.transactions with
  | nil => rfl
  | cons t ts ih =>
    rw [List.filter_cons, List.map_cons, List.sum_cons, ← ih, Transaction.paidTo]
    split
    · rename_i h
      rw [if_pos (of_decide_eq_true h), List.map_cons, List.sum_cons]
    · rename_i h
      rw [if_neg fun h' => h (decide_eq_true h'), Nat.zero_add]

lemma sum_map_set (f : Transaction → Nat) {ts : List Transaction} (found : ts[index]? = some t) :
    ((ts.set index t').map f).sum + f t = (ts.map f).sum + f t' := by
  induction ts generalizing index with
  | nil => cases found
  | cons first ts ih =>
    cases index with
    | zero =>
      cases found
      simp only [List.set_cons_zero, List.map_cons, List.sum_cons]
      omega
    | succ index =>
      have := ih (by simpa using found)
      simp only [List.set_cons_succ, List.map_cons, List.sum_cons]
      omega

lemma paidTo_replace (t' : Transaction) (found : l.transactions[index]? = some t) (x : Address) :
    (l.replace index t').paidTo x + t.paidTo x = l.paidTo x + t'.paidTo x := by
  rw [paidTo_eq_sum, paidTo_eq_sum]
  exact sum_map_set (·.paidTo x) found

lemma paidTo_record (event : Event) (x : Address) : (l.record now event).paidTo x = l.paidTo x :=
  rfl

lemma funds?_replace (found : l.transactions[index]? = some t) (same : t'.call = t.call) :
    (l.replace index t').funds? = l.funds? := by
  have known : (l.replace index t').callAt? = l.callAt? := funext (callAt?_replace found same)
  rw [funds?, address_replace, known]
  rfl

lemma funds?_record (event : Event) :
    (l.record now event).funds?
      = l.funds?.bind fun funds => Audit.fundsAfter? l.address l.callAt? funds event := by
  have known : (l.record now event).callAt? = l.callAt? := rfl
  rw [funds?, log_record, Audit.funds?_append, address_record, known, funds?]
  simp

/-! ### One operation -/

/-- What an operation other than a deposit tells about funds: whether a call was paid for, and which
one. -/
structure Pays (l l' : Ledger) (paid : Option Call) : Prop where
  address_eq : l'.address = l.address
  paidTo_eq : ∀ x, l'.paidTo x
    = l.paidTo x + paid.elim 0 fun call => if call.destination = x then call.value.units else 0
  funds?_eq : ∀ n, l.funds? = some n → l'.funds? = paid.elim (some n) (spend? l.address · n)

lemma Pays.refl (l : Ledger) : l.Pays l none :=
  ⟨rfl, fun _ => rfl, fun _ h => h⟩

lemma Pays.trans {l'' : Ledger} {paid : Option Call} (first : l.Pays l' none)
    (second : l'.Pays l'' paid) : l.Pays l'' paid where
  address_eq := second.address_eq.trans first.address_eq
  paidTo_eq x := by
    rw [second.paidTo_eq, first.paidTo_eq]
    rfl
  funds?_eq n h := by
    rw [second.funds?_eq n (first.funds?_eq n h), first.address_eq]

/-- An event that is neither a deposit nor an execution pays for nothing. -/
lemma Pays.record {event : Event} (quiet : ∀ own callAt? n,
    Audit.fundsAfter? own callAt? n event = some n) : l.Pays (l.record now event) none where
  address_eq := rfl
  paidTo_eq _ := rfl
  funds?_eq n h := by
    rw [funds?_record, h, Option.bind_some, quiet]
    rfl

/-- A change of a transaction that keeps its call, and does not execute it, pays for nothing. -/
lemma Pays.replace (found : l.transactions[index]? = some t) (call_eq : t'.call = t.call)
    (executed_eq : t'.executed = t.executed) : l.Pays (l.replace index t') none where
  address_eq := rfl
  paidTo_eq x := by
    have h := paidTo_replace t' found x
    rw [Transaction.paidTo, Transaction.paidTo, call_eq, executed_eq] at h
    exact Nat.add_right_cancel h
  funds?_eq n h := by
    rw [funds?_replace found call_eq]
    exact h

/-- A new transaction pays for nothing. -/
lemma Pays.propose (caller : Address) (call : Call) : l.Pays { l with
    transactions := l.transactions ++ [.propose l.transactions.length call caller now] } none where
  address_eq := rfl
  paidTo_eq x := by
    rw [paidTo_eq_sum, paidTo_eq_sum, List.map_append, List.sum_append]
    simp [Transaction.paidTo]
  funds?_eq n h := by
    refine Audit.funds?_mono (fun j call known => ?_) h
    obtain ⟨t, found, rfl⟩ := Option.map_eq_some_iff.mp known
    obtain ⟨inside, _⟩ := List.getElem?_eq_some_iff.mp found
    exact Option.map_eq_some_iff.mpr ⟨t, (List.getElem?_append_left inside).trans found, rfl⟩

/-- The execution of a transaction pays for its call. -/
lemma Pays.execute (found : l.transactions[index]? = some t) (unexecuted : t.executed = false) :
    l.Pays ((l.replace index (t.markExecuted now)).record now (.execution index))
      (some t.call) where
  address_eq := rfl
  paidTo_eq x := by
    have h := paidTo_replace (t.markExecuted now) found x
    have before : t.paidTo x = 0 := by simp [Transaction.paidTo, unexecuted]
    rw [before, Nat.add_zero] at h
    rw [paidTo_record, h]
    simp [Transaction.paidTo]
  funds?_eq n h := by
    have same := Transaction.markExecuted_call t now
    have known : (l.replace index (t.markExecuted now)).callAt? index = some t.call := by
      rw [callAt?_replace found same, callAt?, found, Option.map_some]
    rw [funds?_record, funds?_replace found same, h, Option.bind_some, Audit.fundsAfter?, known]
    rfl

/-- A confirmation by itself pays for nothing. -/
lemma Confirms.pays {c : Confirmation} {reply : Bool → Reply} (h : Confirms l now op c reply) :
    l.Pays c.ledger none := by
  cases h with
  | @submit caller call =>
    exact (Pays.propose caller call).trans (.trans (.record fun _ _ _ => rfl)
      (.record fun _ _ _ => rfl))
  | confirm _ found =>
    exact .trans (.replace found (Transaction.confirm_call ..) (Transaction.confirm_executed ..))
      (.record fun _ _ _ => rfl)

/-- The treasury moves just the funds that the ledger tells: those of a call that was carried out,
if there was one. -/
lemma Transition.pays {t : Treasury} {out : Outcome Treasury Reply} {attempts : List CallAttempt}
    (h : Transition Treasury.dispatcher l t now op out attempts)
    (other : ∀ source amount, op ≠ .deposit source amount) :
    ((∀ a ∈ attempts, a.succeeded = false) ∧ l.Pays out.ledger none ∧
      out.dispatcher.balances = t.balances) ∨
    ∃ call, attempts = [⟨l.address, call, .ok ()⟩] ∧ l.Pays out.ledger (some call) ∧
      call.value.units ≤ (t.balanceOf l.address).units ∧
      out.dispatcher.balances
        = (t.transfer l.address call.destination call.value).balances := by
  cases h with
  | refuses => exact .inl ⟨by simp, .refl l, rfl⟩
  | records => exact absurd rfl (other _ _)
  | revokes _ found =>
    refine .inl ⟨by simp, .trans (.replace found ?_ ?_) (.record fun _ _ _ => rfl), rfl⟩
    · exact Transaction.revoke_call ..
    · exact Transaction.revoke_executed ..
  | @confirms _ c reply _ _ recorded settled =>
    have found := recorded.getElem?_index
    cases settled with
    | waits => exact .inl ⟨by simp, recorded.pays, rfl⟩
    | executes _ answer =>
      rw [recorded.address_eq] at answer
      obtain ⟨covered, moved⟩ := Treasury.dispatch_ok answer
      exact .inr ⟨_, by rw [recorded.address_eq],
        recorded.pays.trans (.execute found recorded.unexecuted), covered, moved⟩
    | fails _ answer =>
      refine .inl ⟨by simp, recorded.pays.trans (.trans (.replace found ?_ ?_)
        (.record fun _ _ _ => rfl)), Treasury.balances_dispatch_error answer⟩
      · exact Transaction.recordFailure_call ..
      · exact Transaction.recordFailure_executed ..

end Ledger

/-! ### Runs -/

namespace Wallet

open Ledger (Operation Transition)

variable {w : Wallet} {now : Instant}

/-- What an operation other than a deposit tells about funds is what it moves. -/
lemma apply_pays {op : Operation} (other : ∀ source amount, op ≠ .deposit source amount) :
    ((∀ a ∈ w.ledger.attempts Treasury.dispatcher w.treasury now op, a.succeeded = false) ∧
      w.ledger.Pays (w.apply now op).2.ledger none ∧
      (w.apply now op).2.treasury.balances = w.treasury.balances) ∨
    ∃ call, w.ledger.attempts Treasury.dispatcher w.treasury now op
        = [⟨w.address, call, .ok ()⟩] ∧
      w.ledger.Pays (w.apply now op).2.ledger (some call) ∧
      call.value.units ≤ w.balance.units ∧
      (w.apply now op).2.treasury.balances
        = (w.treasury.transfer w.address call.destination call.value).balances := by
  rw [apply_eq_after other]
  exact (Transition.of_apply Treasury.dispatcher w.ledger w.treasury now op).pays other

/-- Transactions and log both account for the balances. -/
structure Accounted (w : Wallet) : Prop where
  others : ∀ x, x ≠ w.address →
    (w.treasury.balanceOf x).units = min (amountBound - 1) (w.ledger.paidTo x)
  own : w.ledger.funds? = some w.balance.units

/-- An operation that pays for no call leaves the balances as they are. -/
lemma Accounted.rests {w' : Wallet} (h : w.Accounted) (told : w.ledger.Pays w'.ledger none)
    (kept : w'.treasury.balances = w.treasury.balances) : w'.Accounted where
  others x hx := by
    have same : w'.address = w.address := told.address_eq
    rw [same] at hx
    rw [Treasury.balanceOf_congr kept, told.paidTo_eq]
    exact h.others x hx
  own := by
    have same : w'.address = w.address := told.address_eq
    have left : w'.balance = w.balance := by
      rw [balance, same, Treasury.balanceOf_congr kept, balance]
    rw [told.funds?_eq _ h.own, left]
    rfl

lemma Accounted.deposit (h : w.Accounted) (source : Address) (amount : Amount) :
    (w.deposit now source amount).Accounted where
  others x hx := by
    have ne : w.address ≠ x := Ne.symm hx
    rw [Wallet.deposit, Treasury.units_balanceOf_deposit, if_neg ne]
    exact h.others x hx
  own := by
    have added : (w.deposit now source amount).balance.units
        = min (w.balance.units + amount.units) (amountBound - 1) := by
      rw [balance, Wallet.deposit, Treasury.units_balanceOf_deposit]
      exact if_pos rfl
    rw [added, Wallet.deposit, Ledger.recordDeposit, Ledger.funds?_record, h.own]
    rfl

/-- An operation that pays for a call transfers its value. -/
lemma Accounted.pays {w' : Wallet} {call : Call} (h : w.Accounted)
    (told : w.ledger.Pays w'.ledger (some call)) (covered : call.value.units ≤ w.balance.units)
    (moved : w'.treasury.balances
      = (w.treasury.transfer w.address call.destination call.value).balances) :
    w'.Accounted where
  others x hx := by
    have same : w'.address = w.address := told.address_eq
    rw [same] at hx
    rw [Treasury.balanceOf_congr moved, Treasury.units_balanceOf_transfer_of_ne hx, told.paidTo_eq,
      h.others x hx, Option.elim_some]
    omega
  own := by
    have same : w'.address = w.address := told.address_eq
    have left : w'.balance = (w.treasury.transfer w.address call.destination
        call.value).balanceOf w.address := by
      rw [balance, same, Treasury.balanceOf_congr moved]
    rw [told.funds?_eq _ h.own, left, Option.elim_some, Audit.spend?]
    by_cases own : call.destination = w.address
    · rw [own, Treasury.transfer_self]
      exact if_pos rfl
    · rw [Treasury.units_balanceOf_transfer own, if_pos rfl]
      exact (if_neg own).trans (if_pos covered)

lemma Accounted.apply (h : w.Accounted) (op : Operation) : (w.apply now op).2.Accounted := by
  by_cases deposits : ∃ source amount, op = .deposit source amount
  · obtain ⟨source, amount, rfl⟩ := deposits
    exact h.deposit source amount
  · have other : ∀ source amount, op ≠ .deposit source amount :=
      fun source amount e => deposits ⟨source, amount, e⟩
    rcases apply_pays other with ⟨_, told, kept⟩ | ⟨call, _, told, covered, moved⟩
    · exact h.rests told kept
    · exact h.pays told covered moved

lemma Accounted.run (h : w.Accounted) (actions : List (Instant × Action)) :
    (w.run actions).Accounted := by
  induction actions generalizing w with
  | nil => exact h
  | cons action actions ih =>
    refine ih ?_
    cases action.2 with
    | operate op => exact h.apply op
    | register => exact h.rests (.refl _) rfl

lemma accounted_create (owners : OwnerSet) : (create owners).Accounted where
  others x _ := by simp [create, Treasury.balanceOf, Treasury.empty, Ledger.paidTo, Ledger.create]
  own := rfl

/-- Along every run of a new wallet, whatever code is registered: every other address holds what the
executed transactions paid to it, or the greatest amount if that is less; and the wallet holds what
its log tells, where every deposit is added, up to the greatest amount, and the value of every
executed call to another address is taken away, for which the funds always suffice. -/
theorem balances_accounted (owners : OwnerSet) (actions : List (Instant × Action)) :
    let w := (create owners).run actions
    (∀ x, x ≠ w.address →
      (w.treasury.balanceOf x).units = min (2 ^ 128 - 1) (w.ledger.paidTo x)) ∧
    Audit.funds? w.address w.ledger.callAt? w.ledger.log = some w.balance.units := by
  intro w
  have h : w.Accounted := (accounted_create owners).run actions
  exact ⟨h.others, h.own⟩

end Wallet

end Quorum
