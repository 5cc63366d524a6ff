import Quorum.Proofs.Wallet.Run
import Quorum.Server

/-!
# Signed requests to a server

The requests that change transactions make up one type of orders. What an order asks for, who signed
it and its nonce can be read off before a server is asked. `Handles.of_handle` says all that a server
does with an order: it is turned away, and nothing changes, or it passes, its nonce is used up, and
the wallet carries out the operation that it asks for.
-/

namespace Quorum

open Ledger (Operation Reply)
open Time (Instant)

lemma Wallet.nonces_apply (w : Wallet) (now : Instant) (op : Operation) :
    (w.apply now op).2.nonces = w.nonces := by
  cases op <;> rfl

namespace Server

/-- The same answer in other words. -/
def Handled.map {α β : Type} (f : α → β) (h : Handled α) : Handled β :=
  ⟨h.answer.map f, h.server, h.disk⟩

/-- A signed request, with the index that its path names if it names one. -/
inductive Order where
  | submit (r : Signed SubmitBody)
  | confirm (index : UInt64) (r : Signed IndexBody)
  | revoke (index : UInt64) (r : Signed IndexBody)

namespace Order

/-- The account that signed the order for what it is sent for. -/
def signer : Order → Except AuthError Address
  | .submit r => r.verify Action.submit.tag
  | .confirm _ r => r.verify Action.confirm.tag
  | .revoke _ r => r.verify Action.revoke.tag

def nonce : Order → UInt64
  | .submit r => r.body.nonce
  | .confirm _ r => r.body.nonce
  | .revoke _ r => r.body.nonce

/-- What the order asks of a ledger in the name of a caller, or why it asks for nothing. -/
def operation : Order → Except Refusal (Address → Operation)
  | .submit r =>
    match Payload.parse r.body.data with
    | .error e => .error (.payload e)
    | .ok data => .ok fun caller => .submit caller ⟨r.body.destination, r.body.value, data⟩
  | .confirm index r =>
    if r.body.index ≠ index then .error .indexMismatch
    else .ok fun caller => .confirm caller index.toNat
  | .revoke index r =>
    if r.body.index ≠ index then .error .indexMismatch
    else .ok fun caller => .revoke caller index.toNat

/-- The check of signature, owner and nonce. -/
def authenticate (w : Wallet) : Order → Except Refusal (Address × Wallet)
  | .submit r => Server.authenticate w .submit r
  | .confirm _ r => Server.authenticate w .confirm r
  | .revoke _ r => Server.authenticate w .revoke r

/-- The caller whom a wallet knows the order to be from, if the order passes all checks. -/
def caller? (w : Wallet) (o : Order) : Option Address :=
  match o.operation with
  | .error _ => none
  | .ok _ => (o.authenticate w).toOption.map (·.1)

end Order

namespace Order

variable {ask : Address → Operation} {index : UInt64}

lemma operation_submit {r : Signed SubmitBody} (h : (submit r).operation = .ok ask) :
    ∃ data, Payload.parse r.body.data = .ok data ∧
      ask = fun caller => .submit caller ⟨r.body.destination, r.body.value, data⟩ := by
  simp only [operation] at h
  split at h
  · cases h
  · rename_i data parsed
    exact ⟨data, parsed, (Except.ok.inj h).symm⟩

lemma operation_confirm {r : Signed IndexBody} (h : (confirm index r).operation = .ok ask) :
    r.body.index = index ∧ ask = fun caller => .confirm caller index.toNat := by
  simp only [operation] at h
  split at h
  · cases h
  · rename_i same
    exact ⟨Decidable.of_not_not same, (Except.ok.inj h).symm⟩

lemma operation_revoke {r : Signed IndexBody} (h : (revoke index r).operation = .ok ask) :
    r.body.index = index ∧ ask = fun caller => .revoke caller index.toNat := by
  simp only [operation] at h
  split at h
  · cases h
  · rename_i same
    exact ⟨Decidable.of_not_not same, (Except.ok.inj h).symm⟩

end Order

/-- Answers an order. -/
def handle (s : Server) (fault : Option Fault) (now : Instant) (d : Disk) : Order → Handled Reply
  | .submit r => (s.submit fault now d r).map .submitted
  | .confirm index r => (s.confirm fault now d index r).map .confirmed
  | .revoke index r => (s.revoke fault now d index r).map .revoked

/-! ### What is done with an order -/

/-- The order passes: it asks for something, an owner signed it, and its nonce is above the last one
of that owner. -/
structure Order.Passes (o : Order) (w : Wallet) (caller : Address) (ask : Address → Operation)
    (nonces : Nonces) : Prop where
  asks : o.operation = .ok ask
  signed : o.signer = .ok caller
  owner : caller ∈ w.ledger.owners.owners
  fresh : w.nonces.accept caller o.nonce = .ok nonces

section

variable {β : Type} [RequestBody β] {w : Wallet} {action : Action} {r : Signed β} {e : Refusal}
  {caller : Address} {nonces : Nonces}

lemma authenticate_eq_ok_iff {w' : Wallet} :
    authenticate w action r = .ok (caller, w') ↔ r.verify action.tag = .ok caller ∧
      caller ∈ w.ledger.owners.owners ∧
      ∃ nonces, w.nonces.accept caller (RequestBody.nonce r.body) = .ok nonces ∧
        w' = { w with nonces } := by
  unfold authenticate
  split
  · simp [*]
  · rename_i a signed
    by_cases owner : a ∈ w.ledger.owners.owners
    · rw [if_pos (OwnerSet.contains_iff.mpr owner), signed]
      constructor
      · intro h
        split at h
        · cases h
        · rename_i nonces fresh
          cases h
          exact ⟨rfl, owner, nonces, fresh, rfl⟩
      · rintro ⟨⟨⟩, _, nonces, fresh, rfl⟩
        rw [fresh]
    · rw [if_neg (by simpa using owner), signed]
      constructor
      · intro h
        cases h
      · rintro ⟨⟨⟩, owner', _⟩
        exact absurd owner' owner

/-- Before the ledger is asked, nothing is refused in its name. -/
lemma ne_ledger_of_authenticate (h : authenticate w action r = .error e) (cause : Ledger.Error) :
    e ≠ .ledger cause := by
  unfold authenticate at h
  rintro rfl
  split at h
  · cases h
  · split at h
    · split at h <;> cases h
    · cases h

end

variable {s : Server} {fault : Option Fault} {now : Instant} {d : Disk} {o : Order} {w : Wallet}
  {caller : Address}

lemma Order.authenticate_eq_ok_iff {w' : Wallet} :
    o.authenticate w = .ok (caller, w') ↔ o.signer = .ok caller ∧
      caller ∈ w.ledger.owners.owners ∧
      ∃ nonces, w.nonces.accept caller o.nonce = .ok nonces ∧ w' = { w with nonces } := by
  cases o <;> exact Server.authenticate_eq_ok_iff

lemma Order.ne_ledger_of_authenticate {e : Refusal} (h : o.authenticate w = .error e)
    (cause : Ledger.Error) : e ≠ .ledger cause := by
  cases o <;> exact Server.ne_ledger_of_authenticate h cause

lemma Order.ne_ledger_of_operation {e : Refusal} (h : o.operation = .error e)
    (cause : Ledger.Error) : e ≠ .ledger cause := by
  rintro rfl
  cases o <;> simp only [operation] at h <;> split at h <;> cases h

/-- An order passes for one caller exactly if it passes all checks. -/
lemma Order.caller?_eq_some_iff :
    o.caller? w = some caller ↔ ∃ ask nonces, o.Passes w caller ask nonces := by
  unfold caller?
  constructor
  · intro h
    split at h
    · cases h
    · rename_i ask asks
      cases checked : o.authenticate w with
      | error e => simp [checked, Except.toOption] at h
      | ok out =>
        obtain ⟨a, w'⟩ := out
        obtain rfl : a = caller := by simpa [checked, Except.toOption] using h
        obtain ⟨signed, owner, nonces, fresh, _⟩ := authenticate_eq_ok_iff.mp checked
        exact ⟨ask, nonces, asks, signed, owner, fresh⟩
  · rintro ⟨ask, nonces, passes⟩
    have checked : o.authenticate w = .ok (caller, { w with nonces }) :=
      authenticate_eq_ok_iff.mpr ⟨passes.signed, passes.owner, nonces, passes.fresh, rfl⟩
    rw [passes.asks, checked]
    rfl

/-- What a server does with an order. -/
inductive Handles (s : Server) (fault : Option Fault) (now : Instant) (d : Disk) (o : Order) :
    Handled Reply → Prop
  | turnsAway {e : Refusal} (fails : o.caller? s.wallet = none)
      (early : ∀ cause, e ≠ .ledger cause) : Handles s fault now d o ⟨.error e, s, d⟩
  | grants {caller : Address} {ask : Address → Operation} {nonces : Nonces} {w : Wallet}
      {answer : Except Ledger.Error Reply} (passes : o.Passes s.wallet caller ask nonces)
      (done : { s.wallet with nonces }.apply now (ask caller) = (answer, w)) :
      Handles s fault now d o
        ⟨answer.mapError .ledger, { s with wallet := w }, keep { s with wallet := w } fault d⟩

lemma handle_of_operation_error {e : Refusal} (h : o.operation = .error e) :
    s.handle fault now d o = ⟨.error e, s, d⟩ := by
  cases o with
  | submit r =>
    simp only [Order.operation] at h
    split at h
    · rename_i cause failed
      cases h
      simp only [handle, submit, failed]
      rfl
    · cases h
  | confirm index r =>
    simp only [Order.operation] at h
    split at h
    · rename_i mismatch
      cases h
      simp only [handle, confirm, if_pos mismatch]
      rfl
    · cases h
  | revoke index r =>
    simp only [Order.operation] at h
    split at h
    · rename_i mismatch
      cases h
      simp only [handle, revoke, if_pos mismatch]
      rfl
    · cases h

/-- A request is performed as an operation of the wallet that gives the same answer. -/
private lemma map_perform {α β : Type} [RequestBody β] {action : Action} {r : Signed β}
    {f : α → Reply} {operation : Wallet → Address → Except Ledger.Error α × Wallet}
    {ask : Address → Operation} (same : ∀ w caller, w.apply now (ask caller)
      = ((operation w caller).1.map f, (operation w caller).2)) :
    (s.perform fault d action r operation).map f =
      match Server.authenticate s.wallet action r with
      | .error e => ⟨.error e, s, d⟩
      | .ok (caller, wallet) =>
        let out := wallet.apply now (ask caller)
        let s := { s with wallet := out.2 }
        ⟨out.1.mapError .ledger, s, s.keep fault d⟩ := by
  rw [perform]
  cases Server.authenticate s.wallet action r with
  | error e => rfl
  | ok out =>
    obtain ⟨caller, w⟩ := out
    simp only [same, Handled.map]
    cases (operation w caller).1 <;> rfl

/-- An order that asks for something is performed. -/
lemma handle_of_operation_ok {ask : Address → Operation} (h : o.operation = .ok ask) :
    s.handle fault now d o =
      match o.authenticate s.wallet with
      | .error e => ⟨.error e, s, d⟩
      | .ok (caller, wallet) =>
        let out := wallet.apply now (ask caller)
        let s := { s with wallet := out.2 }
        ⟨out.1.mapError .ledger, s, s.keep fault d⟩ := by
  cases o with
  | submit r =>
    obtain ⟨data, parsed, rfl⟩ := Order.operation_submit h
    simp only [handle, submit, parsed]
    exact map_perform fun _ _ => rfl
  | confirm index r =>
    obtain ⟨same, rfl⟩ := Order.operation_confirm h
    simp only [handle, confirm, ne_eq, same, not_true, if_false]
    exact map_perform fun _ _ => rfl
  | revoke index r =>
    obtain ⟨same, rfl⟩ := Order.operation_revoke h
    simp only [handle, revoke, ne_eq, same, not_true, if_false]
    exact map_perform fun _ _ => rfl

/-- A server turns an order away or grants it. -/
theorem Handles.of_handle (s : Server) (fault : Option Fault) (now : Instant) (d : Disk)
    (o : Order) : Handles s fault now d o (s.handle fault now d o) := by
  cases asks : o.operation with
  | error e =>
    rw [handle_of_operation_error asks]
    exact .turnsAway (by simp [Order.caller?, asks]) (Order.ne_ledger_of_operation asks)
  | ok ask =>
    rw [handle_of_operation_ok asks]
    cases checked : o.authenticate s.wallet with
    | error e =>
      exact .turnsAway (by simp [Order.caller?, asks, checked, Except.toOption])
        (Order.ne_ledger_of_authenticate checked)
    | ok out =>
      obtain ⟨caller, w⟩ := out
      obtain ⟨signed, owner, nonces, fresh, rfl⟩ := Order.authenticate_eq_ok_iff.mp checked
      exact .grants ⟨asks, signed, owner, fresh⟩ rfl

end Server

end Quorum
