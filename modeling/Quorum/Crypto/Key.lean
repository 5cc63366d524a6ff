import Quorum.Address
import Quorum.Crypto.Secp256k1
import Quorum.Crypto.Sha256

/-!
# Owner keys and signatures

An owner signs with a number below the order of the curve's group; the matching point is the public
key, from which the owner's address is derived. Signatures are deterministic and have a low `s`.
-/

namespace Quorum

open Secp256k1

/-- The number that bytes denote, the most significant first. -/
def ofBigEndian (bs : List UInt8) : Nat :=
  bs.foldl (fun n b => 256 * n + b.toNat) 0

/-- Why a key or a signature cannot be used. -/
inductive KeyError where
  | privateKey
  | publicKey
  | signature
deriving DecidableEq, Repr

def KeyError.message : KeyError → String
  | .privateKey => "Invalid private key"
  | .publicKey => "Invalid public key"
  | .signature => "Invalid signature"

/-- The error with its kind. -/
def KeyError.dump : KeyError → String
  | .privateKey => "InvalidPrivateKey"
  | .publicKey => "InvalidPublicKey"
  | .signature => "InvalidSignature"

/-! ### Public keys -/

/-- A point of the curve that checks signatures. -/
structure PublicKey where
  point : Point
deriving DecidableEq

namespace PublicKey

/-- The sixty-four bytes of both coordinates. -/
def body (k : PublicKey) : List UInt8 :=
  Sha256.bigEndian 32 k.point.x ++ Sha256.bigEndian 32 k.point.y

/-- Thirty-three bytes: the parity of the ordinate, and the abscissa. -/
def compressed (k : PublicKey) : List UInt8 :=
  (if k.point.y % 2 = 1 then 3 else 2) :: Sha256.bigEndian 32 k.point.x

/-- The compressed key in hexadecimal digits. -/
def render (k : PublicKey) : String :=
  Hex.plain k.compressed

/-- The account that the key controls. -/
def address (k : PublicKey) : Address :=
  .ofDigest (Sha256.digest k.body) (Sha256.length_digest _)

/-- The key that bytes encode: compressed, in full, or in full with the parity told as well. -/
def ofBytes? : List UInt8 → Option PublicKey
  | [] => none
  | kind :: rest =>
    if rest.length = 32 ∧ (kind = 2 ∨ kind = 3) then
      (Point.lift? (ofBigEndian rest) (kind == 3)).map (⟨·⟩)
    else if rest.length = 64 ∧ (kind = 4 ∨ kind = 6 ∨ kind = 7) then
      let point : Point := ⟨ofBigEndian (rest.take 32), ofBigEndian (rest.drop 32)⟩
      let parityTold := kind = 4 ∨ (kind == 7) = (point.y % 2 == 1)
      if parityTold ∧ point.onCurve then some ⟨point⟩ else none
    else none

/-- Reads a public key in hexadecimal digits. -/
def parse (s : String) : Except KeyError PublicKey :=
  match Hex.decode (Text.bytes s) with
  | .error _ => .error .publicKey
  | .ok bs => (ofBytes? bs).elim (.error .publicKey) .ok

end PublicKey

/-! ### Signatures -/

/-- The two numbers of a signature. -/
structure Signature where
  r : Nat
  s : Nat
deriving DecidableEq

namespace Signature

/-- The signature as sixty-four bytes. -/
def bytes (g : Signature) : List UInt8 :=
  Sha256.bigEndian 32 g.r ++ Sha256.bigEndian 32 g.s

/-- Sixty-four bytes whose halves are below the order of the group. -/
def ofBytes? (bs : List UInt8) : Option Signature :=
  let r := ofBigEndian (bs.take 32)
  let s := ofBigEndian (bs.drop 32)
  if bs.length = 64 ∧ r < groupOrder ∧ s < groupOrder then some ⟨r, s⟩ else none

/-- Whether `s` is in the lower half of its range. -/
def isLow (g : Signature) : Bool :=
  g.s ≤ groupOrder / 2

/-- The signature with the lower one of `s` and its negative. -/
def lowered (g : Signature) : Signature :=
  if g.isLow then g else ⟨g.r, groupOrder - g.s⟩

end Signature

/-- Whether a signature of a digest was made for this key; one with a high `s` never counts. -/
def PublicKey.accepts (k : PublicKey) (digest : List UInt8) (g : Signature) : Bool :=
  if g.r = 0 ∨ g.s = 0 ∨ !g.isLow then false
  else
    let w := inverse g.s groupOrder
    let u₁ := ofBigEndian digest * w % groupOrder
    let u₂ := g.r * w % groupOrder
    let sum := (generator.toProjective.scale u₁).add (k.point.toProjective.scale u₂)
    match sum.toPoint? with
    | none => false
    | some point => point.x % groupOrder == g.r

/-! ### Private keys -/

/-- A number that signs. -/
structure SecretKey where
  scalar : Nat
  pos : 0 < scalar
  lt_order : scalar < groupOrder
deriving DecidableEq

namespace SecretKey

/-- The key of a number, if it is in range. -/
def ofNat? (n : Nat) : Option SecretKey :=
  if h : 0 < n ∧ n < groupOrder then some ⟨n, h.1, h.2⟩ else none

/-- Exactly thirty-two bytes denote a key. -/
def ofBytes? (bs : List UInt8) : Option SecretKey :=
  if bs.length = 32 then ofNat? (ofBigEndian bs) else none

/-- Some key for every number; used to make a new key from random bits. -/
def ofEntropy (n : Nat) : SecretKey :=
  ⟨n % (groupOrder - 1) + 1, by omega, by
    have := Nat.mod_lt n (show 0 < groupOrder - 1 by decide)
    omega⟩

/-- Reads a private key in hexadecimal digits. -/
def parse (s : String) : Except KeyError SecretKey :=
  match Hex.decode (Text.bytes s) with
  | .error _ => .error .privateKey
  | .ok bs => (ofBytes? bs).elim (.error .privateKey) .ok

def bytes (k : SecretKey) : List UInt8 :=
  Sha256.bigEndian 32 k.scalar

/-- The key in hexadecimal digits. -/
def render (k : SecretKey) : String :=
  Hex.plain k.bytes

def publicKey (k : SecretKey) : PublicKey :=
  ⟨(multiple? k.scalar).getD generator⟩

/-- The account that the key controls. -/
def address (k : SecretKey) : Address :=
  k.publicKey.address

/-! #### Signing -/

/-- The state from which the secret numbers of a signature are drawn: a key and a value. -/
structure NonceState where
  key : List UInt8
  value : List UInt8

/-- Mixes data into the state. -/
def NonceState.mix (st : NonceState) (data : List UInt8) : NonceState :=
  let key := Sha256.keyed st.key (st.value ++ data)
  ⟨key, Sha256.keyed key st.value⟩

/-- The state that the private key and the digest determine, the latter as a number below the order
of the group. -/
def nonceState (k : SecretKey) (digest : List UInt8) : NonceState :=
  let seed := k.bytes ++ Sha256.bigEndian 32 (ofBigEndian digest % groupOrder)
  let start : NonceState := ⟨List.replicate 32 0, List.replicate 32 1⟩
  (start.mix (0 :: seed)).mix (1 :: seed)

/-- The signature with secret number `nonce`, unless that number will not do. -/
def signWith? (k : SecretKey) (digest : List UInt8) (nonce : Nat) : Option Signature :=
  if nonce = 0 ∨ groupOrder ≤ nonce then none
  else
    let r := ((multiple? nonce).map (·.x)).getD 0 % groupOrder
    let s := inverse nonce groupOrder * (ofBigEndian digest + r * k.scalar) % groupOrder
    if r = 0 ∨ s = 0 then none else some (Signature.lowered ⟨r, s⟩)

/-- The signature with the first of `tries` successive secret numbers that will do. -/
def signFrom? (k : SecretKey) (digest : List UInt8) : (tries : Nat) → NonceState → Option Signature
  | 0, _ => none
  | tries + 1, st =>
    let value := Sha256.keyed st.key st.value
    match k.signWith? digest (ofBigEndian value) with
    | some g => some g
    | none => signFrom? k digest tries (NonceState.mix ⟨st.key, value⟩ [0])

/-- Signs a digest of thirty-two bytes. A secret number fails with a chance of about `2⁻¹²⁷`, so
that the first one serves but for a digest nobody knows. -/
def sign (k : SecretKey) (digest : List UInt8) : Signature :=
  (k.signFrom? digest 64 (k.nonceState digest)).getD ⟨1, 1⟩

end SecretKey

end Quorum
