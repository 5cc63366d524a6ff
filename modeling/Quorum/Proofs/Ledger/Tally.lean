import Quorum.Proofs.Ledger.History
import Quorum.Proofs.Ledger.Reads

/-!
# What requests to confirm add up to

As long as no call fails, one can tell from a ledger and a list of requests to confirm what the
requests lead to, without following them one after the other: who confirms a transaction that is not
executed, and which transactions are executed. `Tallies` says this of a list of requests and the
ledger after them; one request more keeps it.
-/

namespace Quorum.Ledger

open Time (Instant)

variable {σ : Type} {d : Dispatcher σ} {l l' : Ledger} {st : σ} {now : Instant}
  {asked asked' : List (Address × Nat)} {caller a : Address} {index j : Nat}

/-! ### Supporters -/

/-- The owners who confirm a transaction, together with those who ask to. -/
def supporters (l : Ledger) (asked : List (Address × Nat)) (index : Nat) : List Address :=
  l.owners.owners.filter fun a => l.isConfirmedBy index a || decide ((a, index) ∈ asked)

/-- Whether requests lead to the execution of a transaction: some owner joins those who confirm it,
and they are enough then. -/
def Carries (l : Ledger) (asked : List (Address × Nat)) (index : Nat) : Prop :=
  (∃ a ∈ l.supporters asked index, l.isConfirmedBy index a = false) ∧
    l.required ≤ (l.supporters asked index).length

lemma mem_supporters : a ∈ l.supporters asked index ↔
    a ∈ l.owners.owners ∧ (l.isConfirmedBy index a = true ∨ (a, index) ∈ asked) := by
  simp [supporters]

/-- Who supports a transaction, and whether that leads to its execution, by its confirmations. -/
lemma carries_iff_of_getElem? {t : Transaction} (found : l.transactions[index]? = some t) :
    l.Carries asked index ↔
      (∃ a ∈ l.owners.owners, a ∉ t.confirmations ∧ (a, index) ∈ asked) ∧
      l.required ≤ (l.owners.owners.filter fun a =>
        a ∈ t.confirmations ∨ (a, index) ∈ asked).length := by
  have confirms (a : Address) : l.isConfirmedBy index a = true ↔ a ∈ t.confirmations := by
    rw [isConfirmedBy_of_getElem? found, AddressSet.contains_iff]
  have same : l.supporters asked index
      = l.owners.owners.filter fun a => a ∈ t.confirmations ∨ (a, index) ∈ asked := by
    refine List.filter_congr fun a _ => ?_
    rw [Bool.eq_iff_iff, Bool.or_eq_true, decide_eq_true_eq, decide_eq_true_eq, confirms]
  rw [Carries, ← same]
  refine and_congr_left' (exists_congr fun a => ?_)
  rw [mem_supporters, ← Bool.not_eq_true, confirms]
  tauto

/-- Only who asked for the transaction matters. -/
lemma supporters_congr (same : ∀ a, (a, index) ∈ asked ↔ (a, index) ∈ asked') :
    l.supporters asked index = l.supporters asked' index := by
  simp only [supporters, same]

lemma carries_congr (same : ∀ a, (a, index) ∈ asked ↔ (a, index) ∈ asked') :
    l.Carries asked index ↔ l.Carries asked' index := by
  rw [Carries, Carries, supporters_congr same]

lemma supporters_sublist (more : List (Address × Nat)) :
    (l.supporters asked index).Sublist (l.supporters (asked ++ more) index) := by
  refine List.monotone_filter_right _ fun a => ?_
  simp only [Bool.or_eq_true, decide_eq_true_eq, List.mem_append]
  exact Or.imp id .inl

/-- More requests do not undo what others lead to. -/
lemma Carries.append (h : l.Carries asked index) (more : List (Address × Nat)) :
    l.Carries (asked ++ more) index := by
  obtain ⟨⟨a, joins, fresh⟩, enough⟩ := h
  have sublist : (l.supporters asked index).Sublist (l.supporters (asked ++ more) index) :=
    supporters_sublist more
  exact ⟨⟨a, sublist.subset joins, fresh⟩, Nat.le_trans enough sublist.length_le⟩

/-- A request adds no supporter of a transaction unless an owner makes it who is none yet, for that
very transaction. -/
lemma supporters_append_of_idle
    (idle : caller ∈ l.owners.owners → j = index → caller ∈ l.supporters asked j) :
    l.supporters (asked ++ [(caller, index)]) j = l.supporters asked j := by
  refine List.filter_congr fun a owner => ?_
  rw [Bool.eq_iff_iff]
  simp only [Bool.or_eq_true, decide_eq_true_eq, List.mem_append, List.mem_singleton,
    Prod.mk.injEq]
  constructor
  · rintro (confirms | before | ⟨rfl, rfl⟩)
    · exact .inl confirms
    · exact .inr before
    · exact (mem_supporters.mp (idle owner rfl)).2
  · exact Or.imp id .inl

/-- An owner who asks for a transaction supports it. -/
lemma mem_supporters_append (owner : caller ∈ l.owners.owners) :
    a ∈ l.supporters (asked ++ [(caller, index)]) index
      ↔ a = caller ∨ a ∈ l.supporters asked index := by
  simp only [mem_supporters, List.mem_append, List.mem_singleton, Prod.mk.injEq, and_true]
  constructor
  · rintro ⟨owner', confirms | asks | rfl⟩
    · exact .inr ⟨owner', .inl confirms⟩
    · exact .inr ⟨owner', .inr asks⟩
    · exact .inl rfl
  · rintro (rfl | ⟨owner', before⟩)
    · exact ⟨owner, .inr (.inr rfl)⟩
    · exact ⟨owner', before.imp id .inl⟩

/-- A transaction that all its supporters confirm has as many confirmations as supporters. -/
lemma count_eq_length_supporters {t : Transaction}
    (all : ∀ a, a ∈ t.confirmations ↔ a ∈ l.supporters asked index) :
    t.count = (l.supporters asked index).length := by
  have distinct : (l.supporters asked index).Nodup := l.owners.nodup.filter _
  exact ((List.perm_ext_iff_of_nodup t.confirmations.nodup distinct).mpr all).length_eq

/-- The request of an owner who is no supporter yet leads to the execution if the confirmation makes
up the number. -/
lemma carries_append_iff {t : Transaction} (owner : caller ∈ l.owners.owners)
    (all : ∀ a, a ∈ t.confirmations ↔ a ∈ l.supporters asked index)
    (fresh : caller ∉ t.confirmations) :
    l.Carries (asked ++ [(caller, index)]) index ↔ l.required ≤ (t.confirm caller).count := by
  have all' : ∀ a, a ∈ (t.confirm caller).confirmations
      ↔ a ∈ l.supporters (asked ++ [(caller, index)]) index := by
    intro a
    rw [Transaction.mem_confirmations_confirm, all, mem_supporters_append owner]
  have joins : ∃ a ∈ l.supporters (asked ++ [(caller, index)]) index,
      l.isConfirmedBy index a = false := by
    refine ⟨caller, (mem_supporters_append owner).mpr (.inl rfl), ?_⟩
    rw [← Bool.not_eq_true]
    exact fun confirms => fresh ((all caller).mpr (mem_supporters.mpr ⟨owner, .inl confirms⟩))
  rw [Carries, and_iff_right joins, count_eq_length_supporters all']

/-! ### Tallies -/

/-- A later state of a transaction is what requests lead to. -/
structure TalliesAt (l : Ledger) (asked : List (Address × Nat)) (l' : Ledger) (index : Nat) :
    Prop where
  executed : l'.isExecuted index = true ↔ l.isExecuted index = true ∨ l.Carries asked index
  confirmed : l'.isExecuted index = false →
    ∀ a, l'.isConfirmedBy index a = true ↔ a ∈ l.supporters asked index

/-- A later state of a ledger is what requests lead to. -/
structure Tallies (l : Ledger) (asked : List (Address × Nat)) (l' : Ledger) : Prop where
  owners_eq : l'.owners = l.owners
  length_eq : l'.transactions.length = l.transactions.length
  at_index : ∀ index < l.transactions.length, l.TalliesAt asked l' index

/-- Without requests, all stays as it is. -/
lemma Valid.tallies_nil (valid : l.Valid) : l.Tallies [] l where
  owners_eq := rfl
  length_eq := rfl
  at_index index inside := by
    have found := List.getElem?_eq_getElem inside
    constructor
    case executed =>
      refine ⟨.inl, fun h => h.resolve_right ?_⟩
      rintro ⟨⟨a, joins, fresh⟩, _⟩
      simp [mem_supporters, fresh] at joins
    case confirmed =>
      intro _ a
      rw [mem_supporters, or_iff_left (List.not_mem_nil), isConfirmedBy_of_getElem? found,
        AddressSet.contains_iff]
      exact ⟨fun h => ⟨(valid index _ found).confirmers a h, h⟩, fun h => h.2⟩

/-- Something speaks against a confirmation that is refused. -/
lemma objection_to_confirm {e : Error} (h : l.firstObjection? (.confirm caller index) = some e) :
    caller ∉ l.owners.owners ∨ l.transactions.length ≤ index ∨ l.isExecuted index = true ∨
      l.isConfirmedBy index caller = true := by
  obtain ⟨⟨b, e'⟩, found, _⟩ := Option.map_eq_some_iff.mp h
  have applies : b = true := List.find?_some found
  have mem := List.mem_of_find?_eq_some found
  subst applies
  simp only [objections, objectionsTo, List.mem_cons, List.not_mem_nil, Prod.mk.injEq,
    or_false] at mem
  rcases mem with ⟨stranger, _⟩ | ⟨outside, _⟩ | ⟨executed, _⟩ | ⟨confirmed, _⟩
  · exact .inl (by simpa [OwnerSet.contains] using stranger.symm)
  · exact .inr (.inl (by simpa using outside.symm))
  · exact .inr (.inr (.inl executed.symm))
  · exact .inr (.inr (.inr confirmed.symm))

namespace TalliesAt

/-- What requests lead to is read off the transaction and its supporters. -/
lemma congr {l'' : Ledger} (h : l.TalliesAt asked l' j)
    (same : l''.transactions[j]? = l'.transactions[j]?)
    (idle : l.supporters asked' j = l.supporters asked j) : l.TalliesAt asked' l'' j := by
  have executed_eq : l''.isExecuted j = l'.isExecuted j := by rw [isExecuted, same, isExecuted]
  have confirmed_eq (a : Address) : l''.isConfirmedBy j a = l'.isConfirmedBy j a := by
    rw [isConfirmedBy, same, isConfirmedBy]
  constructor
  case executed => rw [executed_eq, Carries, idle, ← Carries, h.executed]
  case confirmed =>
    intro unexecuted a
    rw [confirmed_eq, idle, h.confirmed (executed_eq ▸ unexecuted)]

/-- A request that is refused leads to nothing. -/
lemma refuse (h : l.TalliesAt asked l' index) (inside : index < l'.transactions.length)
    (owners_eq : l'.owners = l.owners) {e : Error}
    (objection : l'.firstObjection? (.confirm caller index) = some e) :
    l.TalliesAt (asked ++ [(caller, index)]) l' index := by
  cases executed : l'.isExecuted index with
  | true =>
    -- what has been executed stays so, whoever confirms it
    constructor
    case executed =>
      exact iff_of_true executed ((h.executed.mp executed).imp id fun c => c.append _)
    case confirmed => simp [executed]
  | false =>
    refine h.congr rfl (supporters_append_of_idle fun owner _ => ?_)
    rcases objection_to_confirm objection with stranger | outside | executed' | confirmed
    · exact absurd (owners_eq ▸ owner) stranger
    · omega
    · rw [executed] at executed'
      cases executed'
    · exact (h.confirmed executed caller).mp confirmed

/-- The confirmations of a transaction that is not executed are those of its supporters. -/
lemma mem_confirmations {t : Transaction} (h : l.TalliesAt asked l' index)
    (found : l'.transactions[index]? = some t) (unexecuted : t.executed = false) :
    a ∈ t.confirmations ↔ a ∈ l.supporters asked index := by
  have open_at : l'.isExecuted index = false := (isExecuted_of_getElem? found).trans unexecuted
  rw [← h.confirmed open_at, isConfirmedBy_of_getElem? found, AddressSet.contains_iff]

/-- Requests that lead to too few confirmations have not led to an execution. -/
lemma waits {t : Transaction} (unexecuted : l.isExecuted index = false)
    (found : l'.transactions[index]? = some t) (unexecuted' : t.executed = false)
    (all : ∀ a, a ∈ t.confirmations ↔ a ∈ l.supporters asked index)
    (idle : ¬ l.Carries asked index) : l.TalliesAt asked l' index where
  executed := by
    rw [isExecuted_of_getElem? found, unexecuted, unexecuted']
    exact iff_of_false Bool.false_ne_true fun h => h.elim Bool.false_ne_true idle
  confirmed _ a := by
    rw [isConfirmedBy_of_getElem? found, AddressSet.contains_iff, all]

/-- Requests that have led to an execution. -/
lemma executes (executed : l'.isExecuted index = true) (carries : l.Carries asked index) :
    l.TalliesAt asked l' index where
  executed := iff_of_true executed (.inr carries)
  confirmed unexecuted := by simp [executed] at unexecuted

/-- A request that is granted adds a supporter, and leads to the execution if that makes up the
number. -/
lemma grant {t : Transaction} (h : l.TalliesAt asked l' index) {out : Outcome σ Bool}
    {attempts : List CallAttempt} (owners_eq : l'.owners = l.owners)
    (owner : caller ∈ l'.owners.owners) (found : l'.transactions[index]? = some t)
    (unexecuted : t.executed = false) (fresh : caller ∉ t.confirmations)
    (settled : Settled d st now ⟨caller, index, t.confirm caller,
      l'.withConfirmation now caller index t⟩ out attempts)
    (carried : ∀ a ∈ attempts, a.succeeded = true) :
    l.TalliesAt (asked ++ [(caller, index)]) out.ledger index := by
  have recorded := @Confirms.confirm l' now _ _ _ owner found unexecuted fresh
  have inside := recorded.getElem?_index
  have required_eq : (l'.withConfirmation now caller index t).required = l.required := by
    rw [required, recorded.owners_eq, owners_eq, required]
  have unexecuted' : l.isExecuted index = false := by
    rw [← Bool.not_eq_true]
    intro executed
    have still := h.executed.mpr (.inl executed)
    rw [isExecuted_of_getElem? found, unexecuted] at still
    cases still
  have confirmed (a : Address) : a ∈ t.confirmations ↔ a ∈ l.supporters asked index :=
    h.mem_confirmations found unexecuted
  rw [owners_eq] at owner
  have carries_iff := carries_append_iff owner confirmed fresh
  rw [← required_eq] at carries_iff
  cases settled with
  | waits few =>
    have idle := carries_iff.not.mpr (Nat.not_le.mpr few)
    refine waits unexecuted' inside unexecuted (fun a => ?_) idle
    rw [Transaction.mem_confirmations_confirm, confirmed, mem_supporters_append owner]
  | executes enough =>
    refine executes ?_ (carries_iff.mpr enough)
    rw [isExecuted_record, isExecuted_replace inside, if_pos rfl, Transaction.markExecuted_executed]
  | fails => cases carried _ (List.mem_singleton_self _)

end TalliesAt

/-- One request more, whose call does not fail if it leads to one. -/
theorem Tallies.confirm (h : l.Tallies asked l') {out : Outcome σ Reply}
    {attempts : List CallAttempt}
    (transition : Transition d l' st now (.confirm caller index) out attempts)
    (carried : ∀ a ∈ attempts, a.succeeded = true) :
    l.Tallies (asked ++ [(caller, index)]) out.ledger where
  owners_eq := transition.growsInto.owners_eq.trans h.owners_eq
  length_eq := by
    rcases transition.length_cases with ⟨same, _⟩ | ⟨_, _, exactly⟩
    · exact same.trans h.length_eq
    · exact absurd ((exactly _ _).mpr ⟨rfl, rfl⟩) (Step.not_submits (by simp))
  at_index j inside := by
    have before := h.at_index j inside
    have inside' : j < l'.transactions.length := h.length_eq ▸ inside
    by_cases hj : j = index
    · subst hj
      cases transition with
      | refuses objection => exact before.refuse inside' h.owners_eq objection
      | confirms recorded settled =>
        cases recorded with
        | confirm owner found unexecuted fresh =>
          exact before.grant h.owners_eq owner found unexecuted fresh settled carried
    · -- a request for another transaction
      have found := List.getElem?_eq_getElem inside'
      have kept := transition.getElem?_of_not_named found fun e => hj (Option.some.inj e).symm
      exact before.congr (kept.trans found.symm)
        (supporters_append_of_idle fun _ same => absurd same hj)

end Quorum.Ledger
