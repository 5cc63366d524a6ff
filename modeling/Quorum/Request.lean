import Quorum.Address.Json
import Quorum.Crypto.Key

/-!
# Signed requests

An owner who is not at the machine that holds the ledger signs what is to be done. The signature
covers the action and the body in its one-line JSON form, so that it cannot be used for another
action or another body; the signer is the account of the public key.
-/

namespace Quorum

open Json

/-! ### Bodies -/

/-- What a signed request can ask for: it has a JSON form and a nonce. -/
class RequestBody (β : Type) where
  toJson : β → Value
  decode : Decoder β
  nonce : β → UInt64

/-- A proposal of a call, with the payload as text. -/
structure SubmitBody where
  nonce : UInt64
  destination : Address
  value : Amount
  data : String
deriving DecidableEq

/-- A confirmation of a transaction, or its withdrawal. -/
structure IndexBody where
  nonce : UInt64
  index : UInt64
deriving DecidableEq

namespace SubmitBody

/-- The body for a payload in bytes. -/
def ofPayload (nonce : UInt64) (destination : Address) (value : Amount) (data : List UInt8) :
    SubmitBody :=
  ⟨nonce, destination, value, Payload.render data⟩

def toJson (b : SubmitBody) : Value :=
  .object [("nonce", .natural b.nonce.toNat), ("destination", b.destination.toJson),
    ("value", b.value.toJson), ("data", .text b.data)]

/-- The fields of a proposal, as far as they were read. -/
structure Draft where
  nonce : Option UInt64 := none
  destination : Option Address := none
  value : Option Amount := none
  data : Option String := none

def shape : Shape where
  what := "struct SubmitBody"
  fields := ["nonce", "destination", "value", "data"]

def Draft.set (index : Nat) (t : Tree) (draft : Draft) : Except Problem Draft :=
  match index with
  | 0 => (word t).map fun v => { draft with nonce := some v }
  | 1 => (Address.decode t).map fun v => { draft with destination := some v }
  | 2 => (amount t).map fun v => { draft with value := some v }
  | _ => (text t).map fun v => { draft with data := some v }

def Draft.finish (draft : Draft) : Except Problem SubmitBody := do
  let nonce ← need "nonce" draft.nonce
  let destination ← need "destination" draft.destination
  let value ← need "value" draft.value
  let data ← need "data" draft.data
  .ok ⟨nonce, destination, value, data⟩

instance : RequestBody SubmitBody where
  toJson := toJson
  decode := record shape {} Draft.set Draft.finish
  nonce := nonce

end SubmitBody

namespace IndexBody

def toJson (b : IndexBody) : Value :=
  .object [("nonce", .natural b.nonce.toNat), ("index", .natural b.index.toNat)]

/-- The fields of the body, as far as they were read. -/
structure Draft where
  nonce : Option UInt64 := none
  index : Option UInt64 := none

def shape : Shape := { what := "struct IndexBody", fields := ["nonce", "index"] }

def Draft.set (index : Nat) (t : Tree) (draft : Draft) : Except Problem Draft :=
  match index with
  | 0 => (word t).map fun v => { draft with nonce := some v }
  | _ => (size t).map fun v => { draft with index := some v }

def Draft.finish (draft : Draft) : Except Problem IndexBody := do
  let nonce ← need "nonce" draft.nonce
  let index ← need "index" draft.index
  .ok ⟨nonce, index⟩

instance : RequestBody IndexBody where
  toJson := toJson
  decode := record shape {} Draft.set Draft.finish
  nonce := nonce

end IndexBody

/-! ### Signatures -/

/-- Why the sender of a request is not known. -/
inductive AuthError where
  | invalidPublicKey
  | malformedSignature
  | badSignature
deriving DecidableEq, Repr

def AuthError.message : AuthError → String
  | .invalidPublicKey => "Invalid public key"
  | .malformedSignature => "Malformed signature"
  | .badSignature => "Signature does not match request"

/-- A body with the public key of its signer and the signature, both in hexadecimal digits. -/
structure Signed (β : Type) where
  publicKey : String
  signature : String
  body : β
deriving DecidableEq

namespace Signed

variable {β : Type} [RequestBody β]

/-- The bytes that a signature for an action covers. -/
def signedBytes (action : String) (body : β) : List UInt8 :=
  Sha256.taggedMessage (Text.bytes action) (Text.utf8 (RequestBody.toJson body).compactChars)

/-- The digest that is signed. -/
def digest (action : String) (body : β) : List UInt8 :=
  Sha256.digest (signedBytes action body)

def sign (action : String) (body : β) (key : SecretKey) : Signed β where
  publicKey := key.publicKey.render
  signature := Hex.plain (key.sign (digest action body)).bytes
  body := body

/-- The account of the signer, if the signature is one for this action and this body. -/
def verify (r : Signed β) (action : String) : Except AuthError Address :=
  match PublicKey.parse r.publicKey with
  | .error _ => .error .invalidPublicKey
  | .ok key =>
    match Hex.decode (Text.bytes r.signature) with
    | .error _ => .error .malformedSignature
    | .ok bs =>
      match Signature.ofBytes? bs with
      | none => .error .malformedSignature
      | some g =>
        if key.accepts (digest action r.body) g then .ok key.address else .error .badSignature

/-! ### JSON form -/

def toJson (r : Signed β) : Value :=
  .object [("public_key", .text r.publicKey), ("signature", .text r.signature),
    ("body", RequestBody.toJson r.body)]

/-- The fields of a request, as far as they were read. -/
structure Draft (β : Type) where
  publicKey : Option String := none
  signature : Option String := none
  body : Option β := none

def shape : Shape where
  what := "struct SignedRequest"
  fields := ["public_key", "signature", "body"]

def Draft.set (index : Nat) (t : Tree) (draft : Draft β) : Except Problem (Draft β) :=
  match index with
  | 0 => (text t).map fun v => { draft with publicKey := some v }
  | 1 => (text t).map fun v => { draft with signature := some v }
  | _ => (RequestBody.decode t).map fun v => { draft with body := some v }

def Draft.finish (draft : Draft β) : Except Problem (Signed β) := do
  let publicKey ← need "public_key" draft.publicKey
  let signature ← need "signature" draft.signature
  let body ← need "body" draft.body
  .ok ⟨publicKey, signature, body⟩

def decode : Decoder (Signed β) :=
  record shape {} Draft.set Draft.finish

end Signed

end Quorum
