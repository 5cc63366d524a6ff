/-!
# The curve secp256k1

The points of `y² = x³ + 7` over the integers modulo a prime, which form a group of prime order.
Points are added in projective coordinates, so that one inverse is needed at the end only.
-/

namespace Quorum.Secp256k1

/-- The prime that coordinates are taken modulo. -/
def fieldPrime : Nat := 0xfffffffffffffffffffffffffffffffffffffffffffffffffffffffefffffc2f

/-- The number of points, by which scalars are reduced. -/
def groupOrder : Nat := 0xfffffffffffffffffffffffffffffffebaaedce6af48a03bbfd25e8cd0364141

/-- `base ^ exponent` modulo `modulus`, by repeated squaring. -/
def powMod (base exponent modulus : Nat) : Nat :=
  if exponent = 0 then 1 % modulus
  else
    let half := powMod (base * base % modulus) (exponent / 2) modulus
    if exponent % 2 = 1 then base * half % modulus else half
termination_by exponent

/-- The inverse modulo a prime of a number that the prime does not divide. -/
def inverse (x prime : Nat) : Nat :=
  powMod x (prime - 2) prime

/-- A point other than the neutral one, by its coordinates. -/
structure Point where
  x : Nat
  y : Nat
deriving DecidableEq, Repr

/-- Whether coordinates are reduced and satisfy the equation of the curve. -/
def Point.onCurve (p : Point) : Bool :=
  p.x < fieldPrime && p.y < fieldPrime
    && p.y * p.y % fieldPrime == (p.x * p.x * p.x + 7) % fieldPrime

/-- The point that generates the group. -/
def generator : Point where
  x := 0x79be667ef9dcbbac55a06295ce870b07029bfcdb2dce28d959f2815b16f81798
  y := 0x483ada7726a3c4655da4fbfc0e1108a8fd17b448a68554199c47d08ffb10d4b8

/-- The point with abscissa `x` whose ordinate has the wanted parity, if the curve has one. -/
def Point.lift? (x : Nat) (odd : Bool) : Option Point :=
  let square := (x * x * x + 7) % fieldPrime
  let root := powMod square ((fieldPrime + 1) / 4) fieldPrime
  if x < fieldPrime ∧ root * root % fieldPrime = square then
    some ⟨x, if (root % 2 == 1) == odd then root else fieldPrime - root⟩
  else none

/-- The difference of two reduced numbers. -/
def subMod (a b : Nat) : Nat :=
  (a + fieldPrime - b) % fieldPrime

/-! ### Group law -/

/-- A point `(x / z², y / z³)`; the neutral point has `z = 0`. -/
structure Projective where
  x : Nat
  y : Nat
  z : Nat

def Projective.neutral : Projective := ⟨1, 1, 0⟩

def Point.toProjective (p : Point) : Projective := ⟨p.x, p.y, 1⟩

def Projective.double (p : Projective) : Projective :=
  if p.z = 0 ∨ p.y = 0 then .neutral
  else
    let yy := p.y * p.y % fieldPrime
    let s := 4 * p.x * yy % fieldPrime
    let m := 3 * p.x * p.x % fieldPrime
    let x := subMod (m * m % fieldPrime) (2 * s % fieldPrime)
    let y := subMod (m * subMod s x % fieldPrime) (8 * yy * yy % fieldPrime)
    ⟨x, y, 2 * p.y * p.z % fieldPrime⟩

def Projective.add (p q : Projective) : Projective :=
  if p.z = 0 then q
  else if q.z = 0 then p
  else
    let pz := p.z * p.z % fieldPrime
    let qz := q.z * q.z % fieldPrime
    let u₁ := p.x * qz % fieldPrime
    let u₂ := q.x * pz % fieldPrime
    let s₁ := p.y * qz * q.z % fieldPrime
    let s₂ := q.y * pz * p.z % fieldPrime
    if u₁ = u₂ then
      if s₁ = s₂ then p.double else .neutral
    else
      let h := subMod u₂ u₁
      let r := subMod s₂ s₁
      let hh := h * h % fieldPrime
      let hhh := h * hh % fieldPrime
      let v := u₁ * hh % fieldPrime
      let x := subMod (subMod (r * r % fieldPrime) hhh) (2 * v % fieldPrime)
      let y := subMod (r * subMod v x % fieldPrime) (s₁ * hhh % fieldPrime)
      ⟨x, y, h * p.z * q.z % fieldPrime⟩

/-- The `n`-fold sum of a point, by doubling. -/
def Projective.scale (n : Nat) (p : Projective) : Projective :=
  if n = 0 then .neutral
  else
    let half := (scale (n / 2) p).double
    if n % 2 = 1 then half.add p else half
termination_by n

/-- The point in plain coordinates; none for the neutral point. -/
def Projective.toPoint? (p : Projective) : Option Point :=
  if p.z = 0 then none
  else
    let i := inverse p.z fieldPrime
    let ii := i * i % fieldPrime
    some ⟨p.x * ii % fieldPrime, p.y * (ii * i % fieldPrime) % fieldPrime⟩

/-- The `n`-fold sum of the generator. -/
def multiple? (n : Nat) : Option Point :=
  (generator.toProjective.scale n).toPoint?

end Quorum.Secp256k1
