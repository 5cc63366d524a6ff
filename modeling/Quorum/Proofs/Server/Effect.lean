import Quorum.Proofs.Server.Freshness
import Quorum.Proofs.Wallet.Failure

/-!
# What an order changes

An order with a flaw changes nothing. Any other order uses up its nonce and leads to one save,
whatever the ledger answers; ledger and treasury become what the operation that it asks for makes of
them.
-/

namespace Quorum

open Ledger (Operation Reply Transition)
open Time (Instant)

namespace Ledger

variable {σ : Type} {d : Dispatcher σ} {l : Ledger} {st : σ} {now : Instant} {op : Operation}
  {out : Outcome σ Reply} {attempts : List CallAttempt}

/-- What was submitted is there. -/
lemma Transition.exists_of_submitted (h : Transition d l st now op out attempts) {index : Nat}
    (answer : out.result = .ok (.submitted index)) :
    ∃ t, out.ledger.transactions[index]? = some t := by
  cases h with
  | refuses => cases answer
  | revokes => cases answer
  | records => cases answer
  | @confirms _ c _ _ _ recorded settled =>
    have found := recorded.getElem?_index
    obtain ⟨inside, _⟩ := List.getElem?_eq_some_iff.mp found
    cases settled with
    | fails => cases answer
    | waits =>
      cases recorded with
      | confirm => cases answer
      | submit =>
        cases answer
        exact ⟨_, found⟩
    | executes =>
      cases recorded with
      | confirm => cases answer
      | submit =>
        cases answer
        exact ⟨_, List.getElem?_set_self inside⟩

/-- Nobody objects to an owner for not being one. -/
lemma ne_notOwner_of_firstObjection? {caller a : Address} {e : Error}
    (owner : caller ∈ l.owners.owners)
    (asked : (∃ call, op = .submit caller call) ∨ (∃ index, op = .confirm caller index) ∨
      ∃ index, op = .revoke caller index)
    (objection : l.firstObjection? op = some e) : e ≠ .notOwner a := by
  rintro rfl
  obtain ⟨⟨applies, e⟩, found, rfl⟩ := Option.map_eq_some_iff.mp objection
  have applies_eq : applies = true := List.find?_some found
  have listed := List.mem_of_find?_eq_some found
  have known : l.owners.contains caller = true := OwnerSet.contains_iff.mpr owner
  rcases asked with ⟨call, rfl⟩ | ⟨index, rfl⟩ | ⟨index, rfl⟩
  · simp [objections, known, applies_eq] at listed
  · simp [objections, objectionsTo, known, applies_eq] at listed
  · simp [objections, objectionsTo, known, applies_eq] at listed

end Ledger

namespace Wallet

variable {w : Wallet} {now : Instant} {op : Operation}

/-- Nonces have no part in an operation. -/
lemma apply_withNonces (nonces : Nonces) :
    ({ w with nonces } : Wallet).apply now op
      = ((w.apply now op).1, { (w.apply now op).2 with nonces }) := by
  cases op <;> rfl

/-- An operation that is refused leaves the wallet as it was. -/
lemma eq_of_isRefusal {e : Ledger.Error} (answer : (w.apply now op).1 = .error e)
    (refusal : e.isRefusal) : (w.apply now op).2 = w := by
  have transition := Transition.of_apply Treasury.dispatcher w.ledger w.treasury now op
  have objection := transition.firstObjection?_of_refusal (result_apply ▸ answer) refusal
  rw [apply_eq_after_of_error answer, transition.eq_of_firstObjection? objection]
  rfl

end Wallet

namespace Server

/-! ### Flaws -/

/-- What is wrong with an order, each flaw with the refusal that reports it: the payload is no text
of bytes, path and body name different transactions, the signature does not fit, the signer is no
owner, or the nonce is not above the last one of its owner. -/
inductive Order.Flaw (w : Wallet) (o : Order) : Refusal → Prop
  | payload {r : Signed SubmitBody} {cause : Hex.Error} (form : o = .submit r)
      (unread : Payload.parse r.body.data = .error cause) : Flaw w o (.payload cause)
  | index {index : UInt64} {r : Signed IndexBody} (form : o = .confirm index r ∨ o = .revoke index r)
      (differs : r.body.index ≠ index) : Flaw w o .indexMismatch
  | signature {cause : AuthError} (failed : o.signer = .error cause) :
      Flaw w o (.unauthenticated cause)
  | stranger {caller : Address} (signed : o.signer = .ok caller)
      (stranger : caller ∉ w.ledger.owners.owners) : Flaw w o (.notOwner caller)
  | nonce {caller : Address} {last : UInt64} (signed : o.signer = .ok caller)
      (noted : w.nonces.last? caller = some last) (stale : o.nonce ≤ last) :
      Flaw w o (.staleNonce ⟨caller, o.nonce, last⟩)

variable {s : Server} {fault : Option Fault} {now : Instant} {d : Disk} {o : Order} {w : Wallet}
  {caller : Address} {ask : Address → Operation} {nonces : Nonces} {e : Refusal}

lemma Order.flaw_of_operation (h : o.operation = .error e) : o.Flaw w e := by
  cases o with
  | submit r =>
    simp only [operation] at h
    split at h
    · rename_i cause unread
      cases h
      exact .payload rfl unread
    · cases h
  | confirm index r =>
    simp only [operation] at h
    split at h
    · rename_i differs
      cases h
      exact .index (.inl rfl) differs
    · cases h
  | revoke index r =>
    simp only [operation] at h
    split at h
    · rename_i differs
      cases h
      exact .index (.inr rfl) differs
    · cases h

/-- The check of signature, owner and nonce refuses an order for one of its flaws. -/
lemma Order.flaw_of_authenticate (h : o.authenticate w = .error e) : o.Flaw w e := by
  have checked {β : Type} [RequestBody β] {action : Action} {r : Signed β}
      (signer_eq : r.verify action.tag = o.signer) (nonce_eq : RequestBody.nonce r.body = o.nonce)
      (h : Server.authenticate w action r = .error e) : o.Flaw w e := by
    unfold Server.authenticate at h
    split at h
    · rename_i cause failed
      cases h
      exact .signature (signer_eq ▸ failed)
    · rename_i caller signed
      split at h
      · split at h
        · rename_i cause stale
          cases h
          unfold Nonces.accept at stale
          split at stale
          · rename_i last noted
            split at stale
            · rename_i le
              cases stale
              rw [nonce_eq] at le ⊢
              exact .nonce (signer_eq ▸ signed) noted le
            · cases stale
          · cases stale
        · cases h
      · rename_i stranger
        cases h
        exact .stranger (signer_eq ▸ signed) (by simpa using stranger)
  cases o <;> exact checked rfl rfl h

/-- An order that passes has no flaw. -/
lemma Order.Passes.not_flaw (passes : o.Passes w caller ask nonces) : ¬ o.Flaw w e := by
  have asks := passes.asks
  rintro (⟨rfl, unread⟩ | ⟨rfl | rfl, differs⟩ | ⟨failed⟩ | ⟨signed, stranger⟩ |
    ⟨signed, noted, stale⟩)
  · simp [operation, unread] at asks
  · simp [operation, differs] at asks
  · simp [operation, differs] at asks
  · rw [passes.signed] at failed
    cases failed
  · rw [passes.signed] at signed
    cases signed
    exact stranger passes.owner
  · rw [passes.signed] at signed
    cases signed
    have above := Nonces.accept_isOk_iff.mp ⟨nonces, passes.fresh⟩ _ noted
    exact UInt64.not_le.mpr above stale

/-- An order is refused for a flaw and nothing changes, or it passes and the wallet carries out what
it asks for. -/
lemma handle_cases (s : Server) (fault : Option Fault) (now : Instant) (d : Disk) (o : Order) :
    (∃ e, o.Flaw s.wallet e ∧ s.handle fault now d o = ⟨.error e, s, d⟩) ∨
    ∃ caller ask nonces, o.Passes s.wallet caller ask nonces ∧ s.handle fault now d o
      = ⟨(s.wallet.apply now (ask caller)).1.mapError .ledger, s.after now (ask caller) nonces,
        (s.after now (ask caller) nonces).keep fault d⟩ := by
  cases asks : o.operation with
  | error e => exact .inl ⟨e, Order.flaw_of_operation asks, handle_of_operation_error asks⟩
  | ok ask =>
    rw [handle_of_operation_ok asks]
    cases checked : o.authenticate s.wallet with
    | error e => exact .inl ⟨e, Order.flaw_of_authenticate checked, rfl⟩
    | ok out =>
      obtain ⟨caller, w⟩ := out
      obtain ⟨signed, owner, nonces, fresh, rfl⟩ := Order.authenticate_eq_ok_iff.mp checked
      refine .inr ⟨caller, ask, nonces, ⟨asks, signed, owner, fresh⟩, ?_⟩
      simp only [after, Wallet.apply_withNonces]

/-! ### Effects -/

/-- What an order of a caller leads to, if it passes and asks for an operation. The answer is that of
the operation on the wallet as it was, and the new wallet is saved once. -/
structure Effect (s : Server) (fault : Option Fault) (now : Instant) (d : Disk) (caller : Address)
    (nonce : UInt64) (op : Operation) (out : Handled Reply) : Prop where
  last?_eq : ∀ a, out.server.wallet.nonces.last? a
    = if caller = a then some nonce else s.wallet.nonces.last? a
  ledger_eq : out.server.wallet.ledger = (s.wallet.apply now op).2.ledger
  treasury_eq : out.server.wallet.treasury = (s.wallet.apply now op).2.treasury
  storage_eq : out.server.storage = s.storage
  disk_eq : out.disk = (s.storage.saveWith fault out.server.wallet d).2
  answer_eq : out.answer = (s.wallet.apply now op).1.mapError .ledger
  /-- An operation that the ledger refuses leaves ledger and treasury as they were. -/
  refused : ∀ e, out.answer = .error (.ledger e) → e.isRefusal →
    out.server.wallet.ledger = s.wallet.ledger ∧ out.server.wallet.treasury = s.wallet.treasury
  /-- Nobody is told not to be an owner any more. -/
  known : ∀ a, out.answer ≠ .error (.notOwner a) ∧ out.answer ≠ .error (.ledger (.notOwner a))
  /-- A transaction that was submitted can be shown. -/
  shown : ∀ index, out.answer = .ok (.submitted index) →
    ∃ t, out.server.wallet.ledger.transactions[index]? = some t

lemma asked_of_operation (h : o.operation = .ok ask) (caller : Address) :
    (∃ call, ask caller = .submit caller call) ∨ (∃ index, ask caller = .confirm caller index) ∨
      ∃ index, ask caller = .revoke caller index := by
  cases o with
  | submit r =>
    obtain ⟨data, _, rfl⟩ := Order.operation_submit h
    exact .inl ⟨_, rfl⟩
  | confirm index r =>
    obtain ⟨_, rfl⟩ := Order.operation_confirm h
    exact .inr (.inl ⟨_, rfl⟩)
  | revoke index r =>
    obtain ⟨_, rfl⟩ := Order.operation_revoke h
    exact .inr (.inr ⟨_, rfl⟩)

/-- The answer of a ledger is passed on as it is. -/
lemma mapError_eq_error_iff {α : Type} {r : Except Ledger.Error α} {e : Ledger.Error} :
    r.mapError Refusal.ledger = .error (.ledger e) ↔ r = .error e := by
  cases r with
  | error e' =>
    show Except.error (Refusal.ledger e') = .error (.ledger e) ↔ _
    simp
  | ok a => exact iff_of_false nofun nofun

lemma mapError_eq_ok_iff {α : Type} {r : Except Ledger.Error α} {a : α} :
    r.mapError Refusal.ledger = .ok a ↔ r = .ok a := by
  cases r with
  | error e => exact iff_of_false nofun nofun
  | ok b =>
    show Except.ok b = .ok a ↔ _
    simp

/-- A ledger does not refuse in the name of the server. -/
lemma mapError_ne_notOwner {α : Type} {r : Except Ledger.Error α} {a : Address} :
    r.mapError Refusal.ledger ≠ .error (.notOwner a) := by
  intro h
  cases r with
  | error e => cases h
  | ok b => cases h

lemma Order.Passes.effect (passes : o.Passes s.wallet caller ask nonces) :
    s.Effect fault now d caller o.nonce (ask caller)
      ⟨(s.wallet.apply now (ask caller)).1.mapError .ledger, s.after now (ask caller) nonces,
        (s.after now (ask caller) nonces).keep fault d⟩ := by
  have transition :=
    Transition.of_apply Treasury.dispatcher s.wallet.ledger s.wallet.treasury now (ask caller)
  -- the nonce is noted before the operation, which does not look at it
  have wallet_eq : (s.after now (ask caller) nonces).wallet
      = { (s.wallet.apply now (ask caller)).2 with nonces } := by
    rw [after, Wallet.apply_withNonces]
  constructor
  case last?_eq =>
    intro a
    rw [wallet_eq, Nonces.last?_accept passes.fresh]
  case ledger_eq => rw [wallet_eq]
  case treasury_eq => rw [wallet_eq]
  case storage_eq => rfl
  case disk_eq => rfl
  case answer_eq => rfl
  case refused =>
    intro e answer refusal
    rw [wallet_eq, Wallet.eq_of_isRefusal (mapError_eq_error_iff.mp answer) refusal]
    exact ⟨rfl, rfl⟩
  case known =>
    intro a
    constructor
    · exact mapError_ne_notOwner
    · intro answer
      have answer := mapError_eq_error_iff.mp answer
      rw [Wallet.result_apply] at answer
      exact Ledger.ne_notOwner_of_firstObjection? passes.owner
        (asked_of_operation passes.asks caller) (transition.firstObjection?_of_refusal answer rfl) rfl
  case shown =>
    intro index answer
    have answer := mapError_eq_ok_iff.mp answer
    rw [Wallet.result_apply] at answer
    rw [ledger_after]
    exact transition.exists_of_submitted answer

/-- An order with a flaw is refused for a flaw that it has, and changes neither the server nor the
disk. Every other order is signed by an owner, and has its effect in this owner's name. -/
theorem order_changes (s : Server) (fault : Option Fault) (now : Instant) (d : Disk) (o : Order) :
    ((∃ e, o.Flaw s.wallet e) → ∃ e, o.Flaw s.wallet e ∧ s.handle fault now d o = ⟨.error e, s, d⟩) ∧
    ((∀ e, ¬ o.Flaw s.wallet e) → ∃ caller ask, o.signer = .ok caller ∧ o.operation = .ok ask ∧
      caller ∈ s.wallet.ledger.owners.owners ∧
      s.Effect fault now d caller o.nonce (ask caller) (s.handle fault now d o)) := by
  constructor
  · rintro ⟨e, flaw⟩
    rcases handle_cases s fault now d o with refused | ⟨caller, ask, nonces, passes, _⟩
    · exact refused
    · exact absurd flaw passes.not_flaw
  · intro flawless
    rcases handle_cases s fault now d o with ⟨e, flaw, _⟩ | ⟨caller, ask, nonces, passes, handled⟩
    · exact absurd flaw (flawless e)
    · rw [handled]
      exact ⟨caller, ask, passes.signed, passes.asks, passes.owner, passes.effect⟩

/-- The owner's order to confirm a transaction that is not there uses up its nonce and is answered
so. -/
theorem signedOrder_notes_nonce :
    let out := newServer.handle none .epoch newDisk signedOrder
    (∀ e, ¬ signedOrder.Flaw newServer.wallet e) ∧
    out.server.wallet.nonces.last? signatory = some 1 ∧
    out.server.wallet.ledger = newServer.wallet.ledger ∧
    out.answer = .error (.ledger (.invalidIndex 0)) := by
  obtain ⟨_, _, passes⟩ := Order.caller?_eq_some_iff.mp caller?_newServer
  have flawless : ∀ e, ¬ signedOrder.Flaw newServer.wallet e := fun e => passes.not_flaw
  obtain ⟨caller, ask, signed, asks, _, effect⟩ :=
    (order_changes newServer none .epoch newDisk signedOrder).2 flawless
  rw [signer_signedOrder] at signed
  cases signed
  obtain rfl := Except.ok.inj asks
  have answer := effect.answer_eq
  exact ⟨flawless, by rw [effect.last?_eq, if_pos rfl]; rfl, (effect.refused _ answer rfl).1, answer⟩

end Server

end Quorum
