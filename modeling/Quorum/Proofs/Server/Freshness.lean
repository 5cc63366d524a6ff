import Mathlib.Data.List.Pairwise
import Quorum.Proofs.Server.Life
import Quorum.Time.Epoch

/-!
# No request counts twice

Over the whole life of a server, however often it is started anew, the nonces of the orders that
pass grow from one order of an owner to the next. Whether an order passes can be told from the
orders of its signer alone.
-/

namespace Quorum

open Storage (fileText)
open Time (Instant)

lemma Signed.exists_key_of_verify {β : Type} [RequestBody β] {r : Signed β} {action : String}
    {a : Address} (h : r.verify action = .ok a) :
    ∃ key, PublicKey.parse r.publicKey = .ok key ∧ key.address = a := by
  unfold verify at h
  split at h
  · cases h
  · rename_i key parsed
    split at h
    · cases h
    · split at h
      · cases h
      · split at h
        · cases h
          exact ⟨key, parsed, rfl⟩
        · cases h

namespace Server

/-! ### Orders by signer -/

/-- The order asks for something, and its nonce is above the last one that passed. -/
def Order.goesAfter (o : Order) (last? : Option UInt64) : Bool :=
  o.operation.isOk && last?.all (· < o.nonce)

/-- What a signed request says of its sender in whichever form it is written, and wherever it is
sent: the key and the nonce. -/
def Order.keyAndNonce : Order → Except KeyError PublicKey × UInt64
  | .submit r => (PublicKey.parse r.publicKey, r.body.nonce)
  | .confirm _ r => (PublicKey.parse r.publicKey, r.body.nonce)
  | .revoke _ r => (PublicKey.parse r.publicKey, r.body.nonce)

namespace Visit

/-- The order of a visit if a given account signed it. -/
def orderOf? (a : Address) (v : Visit) : Option Order :=
  match v.task with
  | .order o => if o.signer.toOption = some a then some o else none
  | .deposit .. => none

/-- The owner whose order passes, and the order. -/
def accepted? (v : Visit) : Option (Address × Order) :=
  match v.task with
  | .order o => (o.caller? v.before.wallet).map fun a => (a, o)
  | .deposit .. => none

/-- The nonce of an order of a given owner that passes. -/
def nonceFrom? (a : Address) (v : Visit) : Option UInt64 :=
  match v.accepted? with
  | some (caller, o) => if caller = a then some o.nonce else none
  | none => none

/-- Whether the order of a given account passes. -/
def verdictOn? (a : Address) (v : Visit) : Option Bool :=
  (v.orderOf? a).map fun o => (o.caller? v.before.wallet).isSome

end Visit

/-- Which orders of one account pass, one after the other, given the last nonce that passed. -/
def verdicts (isOwner : Bool) : (last? : Option UInt64) → List Order → List Bool
  | _, [] => []
  | last?, o :: os =>
    let passes := isOwner && o.goesAfter last?
    passes :: verdicts isOwner (if passes then some o.nonce else last?) os

variable {s s' : Server} {fault : Option Fault} {now : Instant} {d d' : Disk} {task : Task}
  {visits : List Visit} {o : Order} {w : Wallet} {a : Address}

/-- An order passes exactly if an owner signed it and it goes after his last one. -/
lemma Order.caller?_eq_some_iff_goesAfter : o.caller? w = some a ↔
    o.signer = .ok a ∧ a ∈ w.ledger.owners.owners ∧ o.goesAfter (w.nonces.last? a) = true := by
  have fresh : (∃ nonces, w.nonces.accept a o.nonce = .ok nonces) ↔
      (w.nonces.last? a).all (· < o.nonce) = true := by
    rw [Nonces.accept_isOk_iff]
    cases w.nonces.last? a <;> simp
  rw [caller?_eq_some_iff, goesAfter, Bool.and_eq_true, ← fresh]
  constructor
  · rintro ⟨ask, nonces, passes⟩
    refine ⟨passes.signed, passes.owner, ?_, nonces, passes.fresh⟩
    rw [passes.asks]
    rfl
  · rintro ⟨signed, owner, asks, nonces, fresh⟩
    cases operation_eq : o.operation with
    | error e =>
      rw [operation_eq] at asks
      cases asks
    | ok ask => exact ⟨ask, nonces, operation_eq, signed, owner, fresh⟩

/-- An account that signed an order is known as its caller if the order passes. -/
lemma Order.caller?_of_signer (signed : o.signer = .ok a) : o.caller? w
    = if decide (a ∈ w.ledger.owners.owners) && o.goesAfter (w.nonces.last? a)
      then some a else none := by
  by_cases passes : a ∈ w.ledger.owners.owners ∧ o.goesAfter (w.nonces.last? a) = true
  · rw [caller?_eq_some_iff_goesAfter.mpr ⟨signed, passes⟩]
    simp [passes]
  · cases called : o.caller? w with
    | none => simpa using passes
    | some b =>
      obtain ⟨signed', passed⟩ := caller?_eq_some_iff_goesAfter.mp called
      obtain rfl : a = b := by
        rw [signed] at signed'
        exact Except.ok.inj signed'
      exact absurd passed passes

/-! ### The registry of nonces -/

/-- The nonce of an order that passes is noted for its owner, and nothing else is. -/
lemma last?_serve (s : Server) (fault : Option Fault) (now : Instant) (d : Disk) (task : Task)
    (a : Address) : (s.serve fault now d task).1.wallet.nonces.last? a
      = ((Visit.mk s task).nonceFrom? a).or (s.wallet.nonces.last? a) := by
  have serves := Serves.of_serve s fault now d task
  generalize s.serve fault now d task = out at serves ⊢
  cases serves with
  | idle ignored =>
    cases task with
    | order o => simp [Visit.nonceFrom?, Visit.accepted?, Decidable.of_not_not ignored]
    | deposit => rfl
  | acts leads =>
    rw [after, Wallet.nonces_apply]
    cases leads with
    | order passes =>
      have passed := Order.caller?_eq_some_iff.mpr ⟨_, _, passes⟩
      rw [Nonces.last?_accept passes.fresh]
      simp only [Visit.nonceFrom?, Visit.accepted?, passed, Option.map_some]
      split <;> rfl
    | deposit => rfl

/-- The owners stay the same. -/
lemma owners_serve (s : Server) (fault : Option Fault) (now : Instant) (d : Disk) (task : Task) :
    (s.serve fault now d task).1.wallet.ledger.owners = s.wallet.ledger.owners :=
  Invariant.serve (Ledger.invariant_owners s.wallet.ledger.owners) rfl

namespace Visit

variable {v : Visit} {nonce : UInt64}

lemma accepted?_eq_some_iff :
    v.accepted? = some (a, o) ↔ v.task = .order o ∧ o.caller? v.before.wallet = some a := by
  obtain ⟨before, task⟩ := v
  cases task with
  | deposit => simp [accepted?]
  | order o' =>
    simp only [accepted?, Option.map_eq_some_iff, Prod.mk.injEq, Task.order.injEq]
    constructor
    · rintro ⟨b, called, rfl, rfl⟩
      exact ⟨rfl, called⟩
    · rintro ⟨rfl, called⟩
      exact ⟨a, called, rfl, rfl⟩

lemma nonceFrom?_eq_some_iff :
    v.nonceFrom? a = some nonce ↔ ∃ o, v.accepted? = some (a, o) ∧ o.nonce = nonce := by
  unfold nonceFrom?
  split
  · rename_i caller o passed
    rw [passed]
    by_cases same : caller = a
    · subst same
      simp
    · simp [same]
  · rename_i none
    simp [none]

lemma orderOf?_of_signer (signed : o.signer = .ok a) :
    (Visit.mk s (.order o)).orderOf? a = some o := by
  simp [orderOf?, signed, Except.toOption]

lemma orderOf?_of_not_signer (other : o.signer ≠ .ok a) :
    (Visit.mk s (.order o)).orderOf? a = none := by
  have other : o.signer.toOption ≠ some a := by
    cases signer_eq : o.signer with
    | error e => simp [Except.toOption]
    | ok b => simpa [Except.toOption, signer_eq] using other
  simp only [orderOf?, if_neg other]

lemma verdictOn?_of_signer (signed : o.signer = .ok a) : (Visit.mk s (.order o)).verdictOn? a
    = some (decide (a ∈ s.wallet.ledger.owners.owners)
        && o.goesAfter (s.wallet.nonces.last? a)) := by
  rw [verdictOn?, orderOf?_of_signer signed, Option.map_some, Order.caller?_of_signer signed]
  split <;> simp [*]

lemma nonceFrom?_of_signer (signed : o.signer = .ok a) : (Visit.mk s (.order o)).nonceFrom? a
    = if decide (a ∈ s.wallet.ledger.owners.owners) && o.goesAfter (s.wallet.nonces.last? a)
      then some o.nonce else none := by
  simp only [nonceFrom?, accepted?, Order.caller?_of_signer signed]
  generalize (decide (a ∈ s.wallet.ledger.owners.owners)
    && o.goesAfter (s.wallet.nonces.last? a)) = passes
  cases passes <;> simp

lemma nonceFrom?_of_not_signer (other : o.signer ≠ .ok a) :
    (Visit.mk s (.order o)).nonceFrom? a = none := by
  cases passed : (Visit.mk s (.order o)).nonceFrom? a with
  | none => rfl
  | some n =>
    obtain ⟨o', accepted, _⟩ := nonceFrom?_eq_some_iff.mp passed
    obtain ⟨⟨⟩, called⟩ := accepted?_eq_some_iff.mp accepted
    exact absurd (Order.caller?_eq_some_iff_goesAfter.mp called).1 other

end Visit

/-- What passes is above the last nonce, and of an owner. -/
lemma Visit.lt_of_nonceFrom? {nonce : UInt64} (h : (Visit.mk s task).nonceFrom? a = some nonce) :
    (∀ last ∈ s.wallet.nonces.last? a, last < nonce) ∧ a ∈ s.wallet.ledger.owners.owners := by
  obtain ⟨o, passed, rfl⟩ := nonceFrom?_eq_some_iff.mp h
  obtain ⟨_, called⟩ := accepted?_eq_some_iff.mp passed
  obtain ⟨_, owner, after⟩ := Order.caller?_eq_some_iff_goesAfter.mp called
  refine ⟨fun last there => ?_, owner⟩
  simp only [Order.goesAfter, Bool.and_eq_true] at after
  simpa [Option.mem_def.mp there] using after.2

/-! ### Over a life -/

/-- The nonces of one owner grow. -/
lemma Life.pairwise_nonces (life : Life s d visits s' d') (kept : Kept s d) (a : Address) :
    ((s.wallet.nonces.last? a).toList ++ visits.filterMap (·.nonceFrom? a)).Pairwise (· < ·) := by
  induction life with
  | rests => cases last : Nonces.last? _ a <;> simp
  | restarts started later ih =>
    rw [← (kept.eq_of_start started).2]
    exact ih (kept_of_start kept.tidy started)
  | @serves s s' d d' fault now task visits saved later ih =>
    have rest := ih (kept.serve saved)
    rw [last?_serve] at rest
    cases passed : (Visit.mk s task).nonceFrom? a with
    | none => simpa [List.filterMap_cons, passed] using rest
    | some nonce =>
      rw [passed] at rest
      rw [List.filterMap_cons_some passed]
      cases last_eq : s.wallet.nonces.last? a with
      | none => simpa using rest
      | some last =>
        have above : last < nonce := (Visit.lt_of_nonceFrom? passed).1 last last_eq
        obtain ⟨all_above, _⟩ := List.pairwise_cons.mp rest
        refine List.pairwise_cons.mpr ⟨fun n mem => ?_, rest⟩
        rcases List.mem_cons.mp mem with rfl | mem
        · exact above
        · exact UInt64.lt_trans above (all_above n mem)

/-- Each order of an account passes or not by what that account sent before. -/
lemma Life.verdicts_eq (life : Life s d visits s' d') (kept : Kept s d) (a : Address) :
    visits.filterMap (·.verdictOn? a)
      = verdicts (decide (a ∈ s.wallet.ledger.owners.owners)) (s.wallet.nonces.last? a)
          (visits.filterMap (·.orderOf? a)) := by
  induction life with
  | rests => rfl
  | restarts started later ih =>
    obtain ⟨owners, nonces⟩ := kept.eq_of_start started
    rw [← owners, ← nonces]
    exact ih (kept_of_start kept.tidy started)
  | @serves s s' d d' fault now task visits saved later ih =>
    have rest := ih (kept.serve saved)
    rw [last?_serve, owners_serve] at rest
    cases task with
    | deposit => exact rest
    | order o =>
      by_cases signed : o.signer = .ok a
      · rw [Visit.nonceFrom?_of_signer signed] at rest
        rw [List.filterMap_cons_some (Visit.orderOf?_of_signer signed),
          List.filterMap_cons_some (Visit.verdictOn?_of_signer signed), rest, verdicts]
        split <;> simp [*]
      · have order : (Visit.mk s (.order o)).orderOf? a = none := Visit.orderOf?_of_not_signer signed
        have verdict : (Visit.mk s (.order o)).verdictOn? a = none := by
          rw [Visit.verdictOn?, order, Option.map_none]
        rw [Visit.nonceFrom?_of_not_signer signed] at rest
        rw [List.filterMap_cons_none order, List.filterMap_cons_none verdict]
        exact rest

lemma Order.keyAndNonce_of_signer (h : o.signer = .ok a) :
    ∃ key : PublicKey, o.keyAndNonce = (.ok key, o.nonce) ∧ key.address = a := by
  have named {β : Type} [RequestBody β] {r : Signed β} {action : String}
      (h : r.verify action = .ok a) : ∃ key : PublicKey,
        (PublicKey.parse r.publicKey, o.nonce) = (.ok key, o.nonce) ∧ key.address = a := by
    obtain ⟨key, parsed, controls⟩ := Signed.exists_key_of_verify h
    exact ⟨key, by rw [parsed], controls⟩
  cases o <;> exact named h

/-- The last nonce of an owner is the one that is noted. -/
lemma Life.getLast?_nonces (life : Life s d visits s' d') (kept : Kept s d) (a : Address) :
    ((s.wallet.nonces.last? a).toList ++ visits.filterMap (·.nonceFrom? a)).getLast?
      = s'.wallet.nonces.last? a := by
  induction life with
  | rests => cases last : Nonces.last? _ a <;> simp
  | restarts started later ih =>
    rw [← (kept.eq_of_start started).2]
    exact ih (kept_of_start kept.tidy started)
  | @serves s s' d d' fault now task visits saved later ih =>
    have rest := ih (kept.serve saved)
    rw [last?_serve] at rest
    cases passed : (Visit.mk s task).nonceFrom? a with
    | none => simpa [List.filterMap_cons, passed] using rest
    | some nonce =>
      rw [passed] at rest
      rw [List.filterMap_cons_some passed, ← rest]
      simp [List.getLast?_append, List.getLast?_cons]

/-- No signed request passes twice if the nonces of each owner grow. -/
lemma nodup_keyAndNonce
    (grow : ∀ a, (visits.filterMap (·.nonceFrom? a)).Pairwise (· < ·)) :
    (visits.filterMap fun v => v.accepted?.map (·.2.keyAndNonce)).Nodup := by
  refine List.pairwise_filterMap.mpr (List.pairwise_iff_forall_sublist.mpr ?_)
  intro v v' both stamp first stamp' second same
  obtain ⟨⟨a, o⟩, passed, rfl⟩ := Option.map_eq_some_iff.mp first
  obtain ⟨⟨a', o'⟩, passed', rfl⟩ := Option.map_eq_some_iff.mp second
  have signed := Order.caller?_eq_some_iff_goesAfter.mp (Visit.accepted?_eq_some_iff.mp passed).2
  have signed' := Order.caller?_eq_some_iff_goesAfter.mp (Visit.accepted?_eq_some_iff.mp passed').2
  obtain ⟨key, named, rfl⟩ := Order.keyAndNonce_of_signer signed.1
  obtain ⟨key', named', rfl⟩ := Order.keyAndNonce_of_signer signed'.1
  obtain ⟨⟨⟩, same_nonce⟩ := Prod.mk.inj (named.symm.trans (same.trans named'))
  -- both nonces are among those of one owner, one before the other
  have less := List.pairwise_iff_forall_sublist.mp (List.pairwise_filterMap.mp (grow key.address))
    both o.nonce (Visit.nonceFrom?_eq_some_iff.mpr ⟨o, passed, rfl⟩)
    o'.nonce (Visit.nonceFrom?_eq_some_iff.mpr ⟨o', passed', rfl⟩)
  rw [same_nonce] at less
  exact UInt64.lt_irrefl _ less

lemma Life.nodup_keyAndNonce (life : Life s d visits s' d') (kept : Kept s d) :
    (visits.filterMap fun v => v.accepted?.map (·.2.keyAndNonce)).Nodup :=
  Server.nodup_keyAndNonce fun a => (List.pairwise_append.mp (life.pairwise_nonces kept a)).2.1

/-- The registry of nonces lists only owners if it did so at first. -/
lemma Life.owner_of_last? (life : Life s d visits s' d') (kept : Kept s d)
    (only : ∀ a, s.wallet.nonces.last? a ≠ none → a ∈ s.wallet.ledger.owners.owners) (a : Address)
    (noted : s'.wallet.nonces.last? a ≠ none) : a ∈ s'.wallet.ledger.owners.owners := by
  induction life with
  | rests => exact only a noted
  | restarts started later ih =>
    obtain ⟨owners, nonces⟩ := kept.eq_of_start started
    exact ih (kept_of_start kept.tidy started) (by rwa [owners, nonces]) noted
  | @serves s s' d d' fault now task visits saved later ih =>
    refine ih (kept.serve saved) (fun b there => ?_) noted
    rw [owners_serve]
    rw [last?_serve] at there
    cases passed : (Visit.mk s task).nonceFrom? b with
    | none =>
      rw [passed, Option.none_or] at there
      exact only b there
    | some n => exact (Visit.lt_of_nonceFrom? passed).2

/-- Let a server be started from its data directory, take up any orders and deposits and be started
anew as often as one likes, while its saves succeed. For each account, the nonces of its orders that
pass grow, from above the last one that was stored. No signed request passes twice, in whichever
form it is written and wherever it is sent. Which orders of an account pass depends on the orders of
this account alone. Only owners come into the registry. And the server can always be started anew
with what it has, unless its ledger counts more than words can hold. -/
theorem replay_protected {storage : Storage} (tidy : d.Tidy) (started : start storage d = .ok s)
    (life : Life s d visits s' d') :
    (∀ a, ((s.wallet.nonces.last? a).toList ++ visits.filterMap (·.nonceFrom? a)).Pairwise
      (· < ·)) ∧
    (visits.filterMap fun v => v.accepted?.map (·.2.keyAndNonce)).Nodup ∧
    (∀ a, visits.filterMap (·.verdictOn? a)
      = verdicts (decide (a ∈ s.wallet.ledger.owners.owners)) (s.wallet.nonces.last? a)
          (visits.filterMap (·.orderOf? a))) ∧
    ((∀ a, s.wallet.nonces.last? a ≠ none → a ∈ s.wallet.ledger.owners.owners) →
      ∀ a, s'.wallet.nonces.last? a ≠ none → a ∈ s'.wallet.ledger.owners.owners) ∧
    (s'.wallet.ledger.transactions.length ≤ UInt64.size →
      s'.wallet.ledger.events.length ≤ UInt64.size →
      start s'.storage d' = .ok { s' with wallet := s'.wallet.stored }) := by
  have kept := kept_of_start tidy started
  exact ⟨life.pairwise_nonces kept, life.nodup_keyAndNonce kept, life.verdicts_eq kept,
    life.owner_of_last? kept, (life.kept kept).start_eq_ok⟩

/-! ### An order that is sent twice -/

/-- The account whose private key is the number one. -/
def signatory : Address where
  bytes := [180, 106, 122, 26, 35, 243, 137, 124, 200, 58, 148, 82, 26, 150, 218, 92, 35, 188, 88,
    219]
  length_bytes := rfl

/-- What it signed, with nonce one: that transaction zero be confirmed. -/
def signedOrder : Order :=
  .confirm 0
    { publicKey := "0279be667ef9dcbbac55a06295ce870b07029bfcdb2dce28d959f2815b16f81798"
      signature := "1f42d36c29ea9307095a9a8ade12aefb1f3bba5e5876df328c031fc4a4f57b85"
        ++ "368571c3ff387ae09ce9c3a5b1ac75428fbead6fca4f86e69f995e253d471097"
      body := ⟨1, 0⟩ }

lemma signer_signedOrder : signedOrder.signer = .ok signatory := by
  have found : signedOrder.signer.toOption = some signatory := by decide +kernel
  generalize signedOrder.signer = signer at found
  cases signer with
  | error => cases found
  | ok a => exact congrArg Except.ok (Option.some.inj found)

/-- A server of a new wallet of which this account is the only owner. -/
def newServer : Server where
  wallet := .create (.sole signatory)
  storage := { dataDir := "data" }

/-- A disk with the file of the wallet. -/
def newDisk : Disk where
  workDir := Disk.top
  entries := [(⟨1, "ledger.json"⟩, .file (fileText newServer.wallet)),
    (⟨Disk.top, "data"⟩, .directory 1)]

lemma start_newDisk : start newServer.storage newDisk = .ok newServer := by
  have storable : newServer.wallet.ledger.Storable :=
    Ledger.storable_of_counts (Ledger.valid_create _) (Ledger.counts_create _) (by decide)
      (by decide)
  have text : newDisk.read newServer.storage.ledgerPath = .ok (fileText newServer.wallet) := rfl
  rw [start, Storage.load_of_read text, Wallet.ofText_fileText, Wallet.decode_toJson storable]
  rfl

lemma saveWith_newDisk (w : Wallet) :
    (newServer.storage.saveWith none w newDisk).1 = .ok () := by
  rfl

lemma caller?_newServer : signedOrder.caller? newServer.wallet = some signatory := by
  rw [Order.caller?_of_signer signer_signedOrder]
  rfl

/-- What becomes of them with the order. -/
def servedOnce : Server × Disk :=
  newServer.serve none .epoch newDisk (.order signedOrder)

/-- There is no transaction to be confirmed. -/
lemma ledger_servedOnce : servedOnce.1.wallet.ledger = newServer.wallet.ledger := by
  have serves := Serves.of_serve newServer none .epoch newDisk (.order signedOrder)
  unfold servedOnce
  generalize newServer.serve none .epoch newDisk (.order signedOrder) = out at serves ⊢
  cases serves with
  | idle => rfl
  | acts leads =>
    rw [ledger_after]
    cases leads with
    | order passes =>
      obtain rfl := Except.ok.inj passes.asks
      have signed := passes.signed
      rw [signer_signedOrder] at signed
      obtain rfl := Except.ok.inj signed
      rfl

/-- The nonce is noted nevertheless. -/
lemma last?_servedOnce : servedOnce.1.wallet.nonces.last? signatory = some 1 := by
  have passed : (Visit.mk newServer (.order signedOrder)).nonceFrom? signatory = some 1 :=
    Visit.nonceFrom?_eq_some_iff.mpr
      ⟨signedOrder, Visit.accepted?_eq_some_iff.mpr ⟨rfl, caller?_newServer⟩, rfl⟩
  rw [servedOnce, last?_serve, passed, Option.some_or]

/-- An order passes; sent again after the server was started anew, it is turned away. -/
theorem signedOrder_passes_once : ∃ restarted : Server,
    start newServer.storage servedOnce.2 = .ok restarted ∧
    let visits := [⟨newServer, .order signedOrder⟩, ⟨restarted, .order signedOrder⟩]
    Life newServer newDisk visits restarted servedOnce.2 ∧
    visits.filterMap (·.verdictOn? signatory) = [true, false] := by
  have tidy : newDisk.Tidy := by simp [Disk.Tidy, newDisk]
  have kept : Kept servedOnce.1 servedOnce.2 :=
    (kept_of_start tidy start_newDisk).serve fun _ => saveWith_newDisk _
  have restarts : start servedOnce.1.storage servedOnce.2
      = .ok { servedOnce.1 with wallet := servedOnce.1.wallet.stored } :=
    kept.start_eq_ok (by rw [ledger_servedOnce]; decide) (by rw [ledger_servedOnce]; decide)
  have same_storage : servedOnce.1.storage = newServer.storage := storage_serve
  obtain ⟨owners, nonces⟩ := kept.eq_of_start restarts
  generalize ({ servedOnce.1 with wallet := servedOnce.1.wallet.stored } : Server) = restarted at *
  rw [ledger_servedOnce] at owners
  have refused : signedOrder.caller? restarted.wallet = none := by
    rw [Order.caller?_of_signer signer_signedOrder, owners, nonces, last?_servedOnce]
    rfl
  have again : Life restarted servedOnce.2 [⟨restarted, .order signedOrder⟩] restarted
      servedOnce.2 :=
    Life.ignores .epoch (fun taken => taken refused) .rests
  have life : Life newServer newDisk [⟨newServer, .order signedOrder⟩,
      ⟨restarted, .order signedOrder⟩] restarted servedOnce.2 := by
    have saved : (Task.order signedOrder).Taken newServer.wallet →
        (newServer.storage.saveWith none servedOnce.1.wallet newDisk).1 = .ok () :=
      fun _ => saveWith_newDisk _
    exact .serves saved (.restarts restarts again)
  refine ⟨restarted, same_storage ▸ restarts, life, ?_⟩
  obtain ⟨_, _, verdicts_eq, _⟩ := replay_protected tidy start_newDisk life
  have signed (s : Server) := Visit.orderOf?_of_signer (s := s) signer_signedOrder
  rw [verdicts_eq, List.filterMap_cons_some (signed _), List.filterMap_cons_some (signed _)]
  rfl

end Server

end Quorum
