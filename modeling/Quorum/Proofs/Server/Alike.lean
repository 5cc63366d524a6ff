import Quorum.Proofs.Ledger.Alike
import Quorum.Proofs.Server.Intent

/-!
# Replies that differ in time stamps

The server shows time stamps and does nothing else with them. Servers whose wallets differ only in
time stamps that stand for each other reply alike to the same request, and their wallets stay alike.
-/

namespace Quorum

open Http (Request Reply)
open Json (Value)
open List (Forall₂)
open Time (Instant)

variable {same : Instant → Instant → Prop} {now now' : Instant}

/-! ### Values and replies -/

/-- The values are the same, but for time stamps that stand for each other, be they in the form in
which they are stored or in that in which they are shown. -/
inductive Json.Value.Alike (same : Instant → Instant → Prop) : Value → Value → Prop
  | refl (v : Value) : Alike same v v
  | stored {i i' : Instant} (h : same i i') : Alike same i.toJson i'.toJson
  | shown {i i' : Instant} (h : same i i') :
      Alike same (.text i.renderOffset) (.text i'.renderOffset)
  | item {v v' : Value} {vs vs' : List Value} (head : Alike same v v')
      (tail : Alike same (.array vs) (.array vs')) :
      Alike same (.array (v :: vs)) (.array (v' :: vs'))
  | member {name : String} {v v' : Value} {ms ms' : List (String × Value)} (head : Alike same v v')
      (tail : Alike same (.object ms) (.object ms')) :
      Alike same (.object ((name, v) :: ms)) (.object ((name, v') :: ms'))

lemma Json.Value.alike_array {α : Type} {r : α → α → Prop} {f f' : α → Value} {as as' : List α}
    (h : Forall₂ r as as') (items : ∀ a a', r a a' → (f a).Alike same (f' a')) :
    (Value.array (as.map f)).Alike same (.array (as'.map f')) := by
  induction h with
  | nil => exact .refl _
  | cons head tail ih => exact .item (items _ _ head) ih

/-- The replies are the same, but for time stamps in a body that is JSON. -/
inductive Http.Reply.Alike (same : Instant → Instant → Prop) : Reply → Reply → Prop
  | refl (r : Reply) : Alike same r r
  | json {status : Nat} {headers : List Http.Header} {v v' : Value} (h : v.Alike same v') :
      Alike same ⟨status, headers, v.compact⟩ ⟨status, headers, v'.compact⟩

lemma Http.Reply.Alike.withHeader {r r' : Reply} (h : r.Alike same r') (name value : String) :
    (r.withHeader name value).Alike same (r'.withHeader name value) := by
  cases h with
  | refl => exact .refl _
  | json h => exact .json h

lemma Http.Reply.Alike.withoutBody {r r' : Reply} (h : r.Alike same r') :
    r.withoutBody.Alike same r'.withoutBody := by
  cases h with
  | refl => exact .refl _
  | json => exact .refl _

namespace Server

variable {l l' : Ledger} {w w' : Wallet}

/-! ### Views -/

lemma confirmedBy_eq (h : l.Alike same l') {t t' : Transaction} (ht : t.Alike same t') :
    confirmedBy l' t' = confirmedBy l t := by
  rw [confirmedBy, confirmedBy, ht.index_eq, h.confirmations]

lemma alike_optional {o o' : Option Instant} (h : Option.Rel same o o') :
    (Value.optional (fun i => .text i.renderOffset) o).Alike same
      (.optional (fun i => .text i.renderOffset) o') := by
  cases h with
  | none => exact .refl _
  | some stamps => exact .shown stamps

lemma alike_transactionView (h : l.Alike same l') {t t' : Transaction} (ht : t.Alike same t') :
    (transactionView l t).Alike same (transactionView l' t') := by
  have confirmedBy_eq := confirmedBy_eq h ht
  cases ht with
  | restamp submitted executed =>
    simp only [transactionView, confirmedBy_eq, h.required_eq]
    -- the eleven fields before the time stamps
    iterate 11 refine .member (.refl _) ?_
    exact .member (.shown submitted) (.member (alike_optional executed) (.refl _))

lemma alike_eventView {r r' : EventRecord} (h : r.Alike same r') :
    r.toJson.Alike same r'.toJson := by
  cases h with
  | restamp time_same => exact .member (.refl _) (.member (.stored time_same) (.refl _))

lemma ledgerView_eq (h : w.Alike same w') : ledgerView w' = ledgerView w := by
  simp only [ledgerView, h.ledger.status, h.ledger.owners_eq, h.balance_eq]

lemma outcomeView_eq (h : l.Alike same l') (index : Nat) (executed : Bool) (confirmations : Nat) :
    outcomeView l' index executed confirmations = outcomeView l index executed confirmations := by
  simp only [outcomeView, h.required_eq]

lemma alike_submissionView (h : l.Alike same l') (index : Nat) :
    (submissionView l index).Alike same (submissionView l' index) := by
  rcases h.transaction index with ⟨e, none, none'⟩ | ⟨t, t', found, found', ht⟩
  · rw [submissionView, submissionView, none, none']
    exact .refl _
  · rw [submissionView, submissionView, found, found']
    exact alike_transactionView h ht

/-! ### Reads -/

lemma alike_transactions (h : l.Alike same l') {ts ts' : List Transaction}
    (hts : Forall₂ (Transaction.Alike same) ts ts') :
    (Reply.json 200 (.array (ts.map (transactionView l)))).Alike same
      (.json 200 (.array (ts'.map (transactionView l')))) :=
  .json (Json.Value.alike_array hts fun _ _ => alike_transactionView h)

lemma alike_replyAbout (h : l.Alike same l') (part : String) :
    (replyAbout part l.transaction (transactionView l)).Alike same
      (replyAbout part l'.transaction (transactionView l')) := by
  unfold replyAbout
  cases readIndex part with
  | error reply => exact .refl _
  | ok index =>
    rcases h.transaction index.toNat with ⟨e, none, none'⟩ | ⟨t, t', found, found', ht⟩
    · simp only [none, none']
      exact .refl _
    · simp only [found, found']
      exact .json (alike_transactionView h ht)

/-- Alike wallets are shown alike. -/
lemma alike_read? (h : w.Alike same w') (r : Resource) :
    Option.Rel (Reply.Alike same) (read? w r) (read? w' r) := by
  cases r with
  | health => exact .some (.refl _)
  | ledger =>
    rw [read?, read?, ledgerView_eq h]
    exact .some (.refl _)
  | events =>
    exact .some (.json (Json.Value.alike_array h.ledger.events fun _ _ => alike_eventView))
  | transactions => exact .some (alike_transactions h.ledger h.ledger.transactions)
  | pending => exact .some (alike_transactions h.ledger h.ledger.pending)
  | transaction part => exact .some (alike_replyAbout h.ledger part)
  | confirmations part =>
    have confirmations_eq : w'.ledger.confirmations = w.ledger.confirmations :=
      funext h.ledger.confirmations
    rw [read?, read?, confirmations_eq]
    exact .some (.refl _)
  | deposit => exact .none
  | confirm part => exact .none
  | revoke part => exact .none

lemma alike_shown (h : w.Alike same w') (r : Resource) (withBody : Bool) :
    (shown w r withBody).Alike same (shown w' r withBody) := by
  have replies := alike_read? h r
  unfold shown
  generalize read? w r = reply?, read? w' r = reply?' at replies
  cases replies with
  | none => exact .refl _
  | some replies =>
    cases withBody with
    | true => exact replies
    | false => exact replies.withoutBody

/-! ### Requests -/

variable {s s' : Server} {fault fault' : Option Fault} {d d' : Disk} {α β : Type}

/-- The same answer, and wallets that are alike. -/
structure Handled.Alike (same : Instant → Instant → Prop) (h h' : Handled α) : Prop where
  answer_eq : h'.answer = h.answer
  wallet : h.server.wallet.Alike same h'.server.wallet

/-- Replies and wallets that are alike. -/
structure Exchange.Alike (same : Instant → Instant → Prop) (x x' : Exchange) : Prop where
  reply : x.reply.Alike same x'.reply
  wallet : x.server.wallet.Alike same x'.server.wallet

lemma Handled.Alike.exchange {h h' : Handled α} (alike : h.Alike same h')
    {view : Ledger → α → Value}
    (views : ∀ {l l' : Ledger}, l.Alike same l' → ∀ a, (view l a).Alike same (view l' a)) :
    (h.exchange view).Alike same (h'.exchange view) where
  reply := by
    simp only [Handled.exchange, alike.answer_eq]
    cases h.answer with
    | error e => exact .refl _
    | ok a => exact .json (views alike.wallet.ledger a)
  wallet := alike.wallet

lemma alike_reject (h : s.wallet.Alike same s'.wallet) {reply reply' : Reply}
    (replies : reply.Alike same reply') :
    (s.reject d reply).Alike same (s'.reject d' reply') :=
  ⟨replies, h⟩

/-- The same signed request is performed alike, if its operation is carried out alike. -/
lemma alike_perform [RequestBody β] (h : s.wallet.Alike same s'.wallet) (action : Action)
    (r : Signed β) {operation operation' : Wallet → Address → Except Ledger.Error α × Wallet}
    (operations : ∀ {w w' : Wallet}, w.Alike same w' → ∀ caller,
      (operation' w' caller).1 = (operation w caller).1 ∧
        (operation w caller).2.Alike same (operation' w' caller).2) :
    (s.perform fault d action r operation).Alike same
      (s'.perform fault' d' action r operation') := by
  unfold perform authenticate
  cases r.verify action.tag with
  | error e => exact ⟨rfl, h⟩
  | ok caller =>
    simp only [h.ledger.contains_owners, h.nonces_eq]
    cases s.wallet.ledger.owners.contains caller with
    | false => exact ⟨rfl, h⟩
    | true =>
      cases s.wallet.nonces.accept caller (RequestBody.nonce r.body) with
      | error e => exact ⟨rfl, h⟩
      | ok nonces =>
        obtain ⟨answer_eq, wallet⟩ := operations (h.withNonces nonces) caller
        exact ⟨congrArg (Except.mapError Refusal.ledger) answer_eq, wallet⟩

lemma alike_submit (h : s.wallet.Alike same s'.wallet) (now_same : same now now')
    (r : Signed SubmitBody) :
    (s.submit fault now d r).Alike same (s'.submit fault' now' d' r) := by
  unfold submit
  cases Payload.parse r.body.data with
  | error e => exact ⟨rfl, h⟩
  | ok data => exact alike_perform h .submit r fun alike caller => alike.submit now_same caller _

lemma alike_confirm (h : s.wallet.Alike same s'.wallet) (now_same : same now now') (index : UInt64)
    (r : Signed IndexBody) :
    (s.confirm fault now d index r).Alike same (s'.confirm fault' now' d' index r) := by
  unfold confirm
  split
  · exact ⟨rfl, h⟩
  · exact alike_perform h .confirm r fun alike caller => alike.confirm now_same caller _

lemma alike_revoke (h : s.wallet.Alike same s'.wallet) (now_same : same now now') (index : UInt64)
    (r : Signed IndexBody) :
    (s.revoke fault now d index r).Alike same (s'.revoke fault' now' d' index r) := by
  unfold revoke
  split
  · exact ⟨rfl, h⟩
  · exact alike_perform h .revoke r fun alike caller => alike.revoke now_same caller _

lemma alike_deposit (h : s.wallet.Alike same s'.wallet) (now_same : same now now')
    (source : Address) (amount : Amount) :
    (s.deposit fault now d source amount).Alike same (s'.deposit fault' now' d' source amount) := by
  unfold deposit
  split
  · exact ⟨rfl, h⟩
  · have alike := h.deposit now_same source amount
    exact ⟨congrArg Except.ok alike.balance_eq, alike⟩

/-- Alike servers carry out the same task alike. -/
lemma alike_carryOut (h : s.wallet.Alike same s'.wallet) (now_same : same now now') (task : Task) :
    (s.carryOut fault now d task).Alike same (s'.carryOut fault' now' d' task) := by
  cases task with
  | deposit source amount =>
    simp only [carryOut]
    exact (alike_deposit h now_same source amount).exchange fun _ _ => .refl _
  | order o =>
    cases o with
    | submit r => exact (alike_submit h now_same r).exchange alike_submissionView
    | confirm index r =>
      simp only [carryOut]
      refine (alike_confirm h now_same index r).exchange fun ledgers outcome => ?_
      rw [outcomeView_eq ledgers]
      exact .refl _
    | revoke index r =>
      simp only [carryOut]
      refine (alike_revoke h now_same index r).exchange fun ledgers left => ?_
      rw [outcomeView_eq ledgers]
      exact .refl _

/-- Alike servers reply alike to the same request, and stay alike. -/
theorem alike_respond (h : s.wallet.Alike same s'.wallet) (now_same : same now now') (q : Request) :
    (s.respond fault now d q).Alike same (s'.respond fault' now' d' q) := by
  have met : (s.meet fault now d (intent q)).Alike same (s'.meet fault' now' d' (intent q)) := by
    cases intent q with
    | hear reply => exact alike_reject h (.refl _)
    | look r withBody => exact alike_reject h (alike_shown h r withBody)
    | act task => exact alike_carryOut h now_same task
  simp only [respond, exchange_eq_meet]
  exact ⟨met.reply.withHeader _ _, met.wallet⟩

end Server

end Quorum
