import Quorum.Proofs.Ledger.Execution

/-!
# What is never rewritten

A ledger only grows. Its owners and its address are fixed, new events come after the old ones, and
new transactions after the old ones, one for each submission. A transaction keeps what was
submitted, changes only by operations that name it, and no more at all once it is executed.
`GrowsInto` says how a ledger may differ from an earlier state of it; it is shown for one transition
and then, since it is transitive, for whole runs.
-/

namespace Quorum

open Time (Instant)

/-- What lasts of a transaction: its position and what was submitted, and once it is executed all of
it. -/
structure Transaction.PersistsIn (t t' : Transaction) : Prop where
  index_eq : t'.index = t.index
  call_eq : t'.call = t.call
  submittedBy_eq : t'.submittedBy = t.submittedBy
  submittedAt_eq : t'.submittedAt = t.submittedAt
  frozen : t.executed = true → t' = t

namespace Transaction.PersistsIn

variable {t t' t'' : Transaction}

lemma refl (t : Transaction) : t.PersistsIn t :=
  ⟨rfl, rfl, rfl, rfl, fun _ => rfl⟩

lemma trans (first : t.PersistsIn t') (second : t'.PersistsIn t'') : t.PersistsIn t'' where
  index_eq := second.index_eq.trans first.index_eq
  call_eq := second.call_eq.trans first.call_eq
  submittedBy_eq := second.submittedBy_eq.trans first.submittedBy_eq
  submittedAt_eq := second.submittedAt_eq.trans first.submittedAt_eq
  frozen executed := by
    have same := first.frozen executed
    subst same
    exact second.frozen executed

lemma confirm (unexecuted : t.executed = false) (owner : Address) :
    t.PersistsIn (t.confirm owner) :=
  ⟨rfl, rfl, rfl, rfl, by simp [unexecuted]⟩

lemma revoke (unexecuted : t.executed = false) (owner : Address) :
    t.PersistsIn (t.revoke owner) :=
  ⟨rfl, rfl, rfl, rfl, by simp [unexecuted]⟩

lemma markExecuted (unexecuted : t.executed = false) (now : Instant) :
    t.PersistsIn (t.markExecuted now) :=
  ⟨rfl, rfl, rfl, rfl, by simp [unexecuted]⟩

lemma recordFailure (unexecuted : t.executed = false) (reason : String) :
    t.PersistsIn (t.recordFailure reason) :=
  ⟨rfl, rfl, rfl, rfl, by simp [unexecuted]⟩

end Transaction.PersistsIn

namespace Ledger

variable {σ : Type} {d : Dispatcher σ} {l l' l'' : Ledger} {st : σ} {now : Instant}
  {op : Operation} {attempts : List CallAttempt}

/-! ### Growth -/

/-- A ledger and a later state of it. -/
structure GrowsInto (l l' : Ledger) : Prop where
  owners_eq : l'.owners = l.owners
  address_eq : l'.address = l.address
  events : l.events <+: l'.events
  transactions : ∀ (index : Nat) (t : Transaction), l.transactions[index]? = some t →
    ∃ t', l'.transactions[index]? = some t' ∧ t.PersistsIn t'

namespace GrowsInto

lemma refl (l : Ledger) : l.GrowsInto l :=
  ⟨rfl, rfl, List.prefix_refl _, fun _ t found => ⟨t, found, .refl t⟩⟩

lemma trans (first : l.GrowsInto l') (second : l'.GrowsInto l'') : l.GrowsInto l'' where
  owners_eq := second.owners_eq.trans first.owners_eq
  address_eq := second.address_eq.trans first.address_eq
  events := first.events.trans second.events
  transactions index t found := by
    obtain ⟨t', found', persists⟩ := first.transactions index t found
    obtain ⟨t'', found'', persists'⟩ := second.transactions index t' found'
    exact ⟨t'', found'', persists.trans persists'⟩

/-- Transactions are never taken away. -/
lemma length_le (h : l.GrowsInto l') : l.transactions.length ≤ l'.transactions.length := by
  rcases Nat.eq_zero_or_pos l.transactions.length with none | some
  · exact none ▸ Nat.zero_le _
  · -- the last transaction is still at its place
    have last : l.transactions.length - 1 < l.transactions.length := Nat.sub_one_lt_of_lt some
    obtain ⟨_, found, _⟩ := h.transactions _ _ (List.getElem?_eq_getElem last)
    obtain ⟨inside, _⟩ := List.getElem?_eq_some_iff.mp found
    omega

lemma record (l : Ledger) (event : Event) : l.GrowsInto (l.record now event) :=
  { refl l with events := List.prefix_append _ _ }

lemma replace {index : Nat} {t t' : Transaction} (found : l.transactions[index]? = some t)
    (persists : t.PersistsIn t') : l.GrowsInto (l.replace index t') where
  owners_eq := rfl
  address_eq := rfl
  events := List.prefix_refl _
  transactions j u hu := by
    by_cases hj : j = index
    · subst hj
      obtain ⟨inside, _⟩ := List.getElem?_eq_some_iff.mp found
      rw [found, Option.some.injEq] at hu
      subst hu
      exact ⟨t', List.getElem?_set_self inside, persists⟩
    · exact ⟨u, by rw [transactions_replace, List.getElem?_set_ne (Ne.symm hj), hu], .refl u⟩

lemma withProposal (caller : Address) (call : Call) :
    l.GrowsInto (l.withProposal now caller call) where
  owners_eq := rfl
  address_eq := rfl
  events := ⟨_, (List.append_assoc ..).symm⟩
  transactions j u hu := by
    obtain ⟨inside, _⟩ := List.getElem?_eq_some_iff.mp hu
    exact ⟨u, (List.getElem?_append_left inside).trans hu, .refl u⟩

end GrowsInto

/-! ### One operation -/

lemma Confirms.growsInto {c : Confirmation} {reply : Bool → Reply} (h : Confirms l now op c reply) :
    l.GrowsInto c.ledger := by
  cases h with
  | submit => exact .withProposal _ _
  | confirm _ found unexecuted =>
    exact .trans (.replace found (.confirm unexecuted _)) (.record _ _)

lemma Settled.growsInto {c : Confirmation} {out : Outcome σ Bool}
    (h : Settled d st now c out attempts)
    (found : c.ledger.transactions[c.index]? = some c.transaction)
    (unexecuted : c.transaction.executed = false) : c.ledger.GrowsInto out.ledger := by
  cases h with
  | waits => exact .refl _
  | executes => exact .trans (.replace found (.markExecuted unexecuted now)) (.record _ _)
  | fails => exact .trans (.replace found (.recordFailure unexecuted _)) (.record _ _)

variable {out : Outcome σ Reply}

/-- Every operation lets the ledger grow. -/
lemma Transition.growsInto (h : Transition d l st now op out attempts) :
    l.GrowsInto out.ledger := by
  cases h with
  | refuses => exact .refl l
  | records => exact .record l _
  | revokes _ found unexecuted =>
    exact .trans (.replace found (.revoke unexecuted _)) (.record _ _)
  | confirms recorded settled =>
    exact recorded.growsInto.trans (settled.growsInto recorded.getElem?_index recorded.unexecuted)

/-- The transaction that an operation names. -/
def Operation.named? : Operation → Option Nat
  | .submit .. => none
  | .confirm _ index => some index
  | .revoke _ index => some index
  | .deposit .. => none

/-- A confirmation is that of a new transaction or of the one that the operation names. -/
lemma Confirms.index_cases {c : Confirmation} {reply : Bool → Reply}
    (h : Confirms l now op c reply) :
    c.index = l.transactions.length ∨ op.named? = some c.index := by
  cases h with
  | submit => exact .inl rfl
  | confirm => exact .inr rfl

/-- A transaction changes only by an operation that names it. -/
lemma Transition.getElem?_of_not_named (h : Transition d l st now op out attempts) {j : Nat}
    {t : Transaction} (found : l.transactions[j]? = some t) (other : op.named? ≠ some j) :
    out.ledger.transactions[j]? = some t := by
  cases h with
  | refuses => exact found
  | records => exact found
  | @revokes _ index =>
    have hj : index ≠ j := fun e => other (congrArg some e)
    rwa [transactions_record, transactions_replace, List.getElem?_set_ne hj]
  | @confirms _ c _ _ _ recorded settled =>
    have hj : j ≠ c.index := by
      rintro rfl
      rcases recorded.index_cases with fresh | named
      · obtain ⟨inside, _⟩ := List.getElem?_eq_some_iff.mp found
        omega
      · exact other named
    rw [Outcome.map_ledger, settled.getElem?_of_ne hj, recorded.getElem?_of_ne hj, found]

/-! ### New transactions -/

lemma Settled.length_eq {c : Confirmation} {out : Outcome σ Bool}
    (h : Settled d st now c out attempts) :
    out.ledger.transactions.length = c.ledger.transactions.length := by
  cases h with
  | waits => rfl
  | executes => exact List.length_set
  | fails => exact List.length_set

/-- An operation adds a transaction exactly if it submits one, and then reports the number of those
before as its index. -/
lemma Transition.length_cases (h : Transition d l st now op out attempts) :
    (out.ledger.transactions.length = l.transactions.length ∧
      ∀ index call, ¬ Step.Submits ⟨op, l, attempts, out.result, out.ledger⟩ index call) ∨
    (out.ledger.transactions.length = l.transactions.length + 1 ∧
      ∃ call, ∀ index call', Step.Submits ⟨op, l, attempts, out.result, out.ledger⟩ index call' ↔
        index = l.transactions.length ∧ call = call') := by
  cases h with
  | refuses objection =>
    have refusal := isRefusal_of_firstObjection? objection
    refine .inl ⟨rfl, ?_⟩
    rintro index call ⟨_, answer | ⟨reason, answer⟩⟩
    · cases answer
    · cases answer
      cases refusal
  | records => exact .inl ⟨rfl, fun _ _ => Step.not_submits (by simp)⟩
  | revokes => exact .inl ⟨List.length_set, fun _ _ => Step.not_submits (by simp)⟩
  | confirms recorded settled =>
    rw [Outcome.map_ledger, settled.length_eq]
    cases recorded with
    | submit => exact .inr ⟨by simp [Ledger.withProposal], _, fun _ _ => settled.submits_iff rfl⟩
    | confirm => exact .inl ⟨List.length_set, fun _ _ => Step.not_submits (by simp)⟩

/-! ### Runs -/

/-- A ledger grows along every run. -/
lemma invariant_growsInto (l : Ledger) : Invariant fun l' => l.GrowsInto l' :=
  fun h before => before.trans h.growsInto

lemma growsInto_run (d : Dispatcher σ) (l : Ledger) (st : σ) (ops : List (Instant × Operation)) :
    l.GrowsInto (l.run d st ops).1 :=
  Invariant.run (invariant_growsInto l) (.refl l) ops

/-- A transaction that no operation of a run names is the same at its end. -/
lemma getElem?_run_of_not_named {j : Nat} {t : Transaction} {ops : List (Instant × Operation)}
    (found : l.transactions[j]? = some t) (other : ∀ o ∈ ops, o.2.named? ≠ some j) :
    (l.run d st ops).1.transactions[j]? = some t := by
  induction ops generalizing l st with
  | nil => exact found
  | cons o ops ih =>
    obtain ⟨first, rest⟩ := List.forall_mem_cons.mp other
    exact ih ((Transition.of_apply d l st o.1 o.2).getElem?_of_not_named found first) rest

/-- Nothing of a ledger is ever rewritten. In every step of a run, and from the start of the run to
its end, the owners and the address stay, the events are those of before and maybe more, and each
transaction keeps what was submitted, and all of it once it is executed. The number of transactions
grows by one with each submission that is not refused, which reports the old number as its index,
and by no other operation. No operation changes a transaction that it does not name. -/
theorem grows_only (d : Dispatcher σ) (l : Ledger) (st : σ) (ops : List (Instant × Operation)) :
    (∀ s ∈ l.trace d st ops,
      s.before.GrowsInto s.after ∧
      (∀ index call, s.Submits index call → index = s.before.transactions.length ∧
        s.after.transactions.length = s.before.transactions.length + 1) ∧
      ((∀ index call, ¬ s.Submits index call) →
        s.after.transactions.length = s.before.transactions.length) ∧
      (∀ j t, s.before.transactions[j]? = some t → s.operation.named? ≠ some j →
        s.after.transactions[j]? = some t)) ∧
    l.GrowsInto (l.run d st ops).1 ∧
    l.transactions.length ≤ (l.run d st ops).1.transactions.length ∧
    (∀ j t, l.transactions[j]? = some t → (∀ o ∈ ops, o.2.named? ≠ some j) →
      (l.run d st ops).1.transactions[j]? = some t) := by
  have grown := growsInto_run d l st ops
  refine ⟨?_, grown, grown.length_le, fun j t => getElem?_run_of_not_named⟩
  refine Invariant.forall_mem_trace (p := fun _ => True) (fun _ _ => trivial) trivial ?_ ops
  intro l st now op out attempts h _
  refine ⟨h.growsInto, ?_, ?_, fun j t => h.getElem?_of_not_named⟩
  · intro index call submits
    rcases h.length_cases with ⟨_, none⟩ | ⟨more, _, exactly⟩
    · exact absurd submits (none index call)
    · exact ⟨((exactly index call).mp submits).1, more⟩
  · intro quiet
    rcases h.length_cases with ⟨same, _⟩ | ⟨_, call, exactly⟩
    · exact same
    · exact absurd ((exactly _ _).mpr ⟨rfl, rfl⟩) (quiet _ _)

end Ledger

end Quorum
