import Quorum.Address.Map
import Quorum.Dispatcher

/-!
# The treasury

The treasury carries out calls by moving funds between the balances it keeps. Code may be
registered for an address: it is asked first, and its refusal leaves all balances as they are.
-/

namespace Quorum

/-- A call as the code at its destination received it. -/
structure Receipt where
  target : Address
  caller : Address
  value : Amount
  data : List UInt8
  /-- Whether the code refused the call. -/
  reverted : Bool
deriving DecidableEq

/-- Code at an address: it refuses a call with a reason, or accepts it. -/
structure CallTarget where
  /-- The answer to a call, given the receipts of the calls before it since the registration. -/
  refusal? : List Receipt → (caller : Address) → Call → Option String
  /-- How many receipts the treasury had when the code was registered. -/
  registeredAt : Nat

structure Treasury where
  balances : AddressMap Amount
  targets : AddressMap CallTarget
  /-- All calls that code received, the oldest first. -/
  receipts : List Receipt

namespace Treasury

def empty : Treasury := ⟨.empty, .empty, []⟩

/-- The treasury with given balances and no code. -/
def ofBalances (balances : AddressMap Amount) : Treasury := ⟨balances, .empty, []⟩

/-- The funds of an address. -/
def balanceOf (t : Treasury) (a : Address) : Amount :=
  (t.balances.get? a).getD 0

/-- Adds funds to an address; what goes beyond the greatest amount is lost. -/
def deposit (t : Treasury) (a : Address) (amount : Amount) : Treasury :=
  { t with balances := t.balances.insert a ((t.balanceOf a).credit amount) }

/-- Registers code for an address, in place of what was there. -/
def register (t : Treasury) (a : Address)
    (refusal? : List Receipt → Address → Call → Option String) : Treasury :=
  { t with targets := t.targets.insert a ⟨refusal?, t.receipts.length⟩ }

def hasTarget (t : Treasury) (a : Address) : Bool :=
  t.targets.contains a

/-- The balances that are not zero, in address order. -/
def holdings (t : Treasury) : List (Address × Amount) :=
  t.balances.entries.filter fun e => 0 < e.2.units

/-- The receipts of the calls that the code at an address received since its registration. -/
def receiptsOf (t : Treasury) (a : Address) (target : CallTarget) : List Receipt :=
  (t.receipts.drop target.registeredAt).filter (·.target = a)

/-- Hands a call to the code at its destination, if there is any. -/
def forward (t : Treasury) (source : Address) (call : Call) : Option String × Treasury :=
  match t.targets.get? call.destination with
  | none => (none, t)
  | some target =>
    let refusal := target.refusal? (t.receiptsOf call.destination target) source call
    let receipt : Receipt := ⟨call.destination, source, call.value, call.data, refusal.isSome⟩
    (refusal, { t with receipts := t.receipts ++ [receipt] })

/-- Moves funds; nothing moves from an address to itself. -/
def transfer (t : Treasury) (source destination : Address) (value : Amount) : Treasury :=
  if 0 < value.units ∧ destination ≠ source then
    let left := (t.balanceOf source).debit value
    { t with balances := t.balances.insert source left }.deposit destination value
  else t

/-- Carries out a call: the funds must be there, the code must accept, then the funds move. -/
def dispatch (t : Treasury) (source : Address) (call : Call) :
    Except DispatchError Unit × Treasury :=
  let available := t.balanceOf source
  if available.units < call.value.units then
    (.error (.insufficientBalance available call.value), t)
  else
    match t.forward source call with
    | (some reason, t) => (.error (.reverted reason), t)
    | (none, t) => (.ok (), t.transfer source call.destination call.value)

/-- The treasury as a dispatcher. -/
def dispatcher : Dispatcher Treasury := ⟨dispatch⟩

/-- The treasury with its balances and the addresses that have code. -/
def dump (t : Treasury) : String :=
  let balances := t.balances.entries.map fun e => e.1.dump ++ ": " ++ e.2.render
  let targets := t.targets.entries.map fun e => e.1.dump
  "Treasury \x7b balances: \x7b" ++ ", ".intercalate balances ++ "\x7d, targets: ["
    ++ ", ".intercalate targets ++ "] \x7d"

/-! ### Balances -/

theorem balanceOf_deposit (t : Treasury) (a x : Address) (amount : Amount) :
    (t.deposit a amount).balanceOf x
      = if a = x then (t.balanceOf a).credit amount else t.balanceOf x := by
  simp only [balanceOf, deposit, AddressMap.get?_insert]
  split <;> rfl

@[simp] theorem balances_forward (t : Treasury) (source : Address) (call : Call) :
    (t.forward source call).2.balances = t.balances := by
  unfold forward
  split <;> rfl

/-- A failed call leaves all balances as they were. -/
theorem balances_dispatch_error {t t' : Treasury} {source : Address} {call : Call}
    {e : DispatchError} (h : t.dispatch source call = (.error e, t')) :
    t'.balances = t.balances := by
  unfold dispatch at h
  simp only at h
  split at h
  · cases h; rfl
  · have kept := balances_forward t source call
    split at h
    · rename_i heq
      cases h
      rw [heq] at kept
      exact kept
    · cases h

end Treasury

end Quorum
