import Quorum.Address.Map

/-!
# Nonces

Every signed request carries a number that must grow from one request of an owner to the next, so
that no request counts twice.
-/

namespace Quorum

/-- The last number accepted from each owner. -/
structure Nonces where
  last : AddressMap UInt64
deriving DecidableEq

/-- A number that is not above the last one. -/
structure StaleNonce where
  caller : Address
  nonce : UInt64
  last : UInt64
deriving DecidableEq

def StaleNonce.message (e : StaleNonce) : String :=
  let nonce := e.nonce.toNat
  let caller := e.caller
  let last := e.last.toNat
  s!"Stale nonce {nonce} for {caller} (last used {last})"

namespace Nonces

def empty : Nonces := ⟨.empty⟩

/-- The last number accepted from an owner. -/
def last? (n : Nonces) (caller : Address) : Option UInt64 :=
  n.last.get? caller

/-- Notes a number, which must be above the last one of that caller. -/
def accept (n : Nonces) (caller : Address) (nonce : UInt64) : Except StaleNonce Nonces :=
  match n.last? caller with
  | some last =>
    if nonce ≤ last then .error ⟨caller, nonce, last⟩ else .ok ⟨n.last.insert caller nonce⟩
  | none => .ok ⟨n.last.insert caller nonce⟩

theorem last?_accept {n n' : Nonces} {caller : Address} {nonce : UInt64}
    (h : n.accept caller nonce = .ok n') (x : Address) :
    n'.last? x = if caller = x then some nonce else n.last? x := by
  unfold accept at h
  split at h
  · split at h
    · cases h
    · cases h; exact AddressMap.get?_insert ..
  · cases h; exact AddressMap.get?_insert ..

/-- A number is accepted exactly if it is above the last one. -/
theorem accept_isOk_iff {n : Nonces} {caller : Address} {nonce : UInt64} :
    (∃ n', n.accept caller nonce = .ok n') ↔ ∀ last, n.last? caller = some last → last < nonce := by
  unfold accept
  split
  · rename_i last h
    by_cases le : nonce ≤ last
    · simp [le]
      exact ⟨last, h, le⟩
    · simp [h, UInt64.not_le.1 le, le]
  · rename_i h
    simp [h]

end Nonces

end Quorum
