/-
  TunnelSession.Key.Curve

  Scalar multiplication on Curve25519, on little-endian strings of 32 bytes.
  The Montgomery ladder runs over the 255 bits of a clamped scalar with field
  elements as natural numbers below the prime.
-/

namespace TunnelSession.Key.Curve

/-! ## The field -/

/-- The prime `2 ^ 255 - 19`. -/
def prime : Nat := 0x7fffffffffffffffffffffffffffffffffffffffffffffffffffffffffffffed

def add (a b : Nat) : Nat := (a + b) % prime

def sub (a b : Nat) : Nat := (a + prime - b) % prime

def mul (a b : Nat) : Nat := a * b % prime

/-- The product of `acc` with `base` raised to the lowest `bits` bits of `e`. -/
def powBits (e : Nat) : Nat → Nat → Nat → Nat
  | 0, _, acc => acc
  | bits + 1, base, acc =>
    powBits (e / 2) bits (mul base base) (if e % 2 = 1 then mul acc base else acc)

/-- The inverse of a field element, zero for zero. -/
def inverse (a : Nat) : Nat := powBits (prime - 2) 255 a 1

/-! ## Bytes -/

/-- The number with the given little-endian bytes. -/
def ofBytes : List UInt8 → Nat
  | [] => 0
  | b :: rest => b.toNat + 256 * ofBytes rest

/-- The first `count` little-endian bytes of a number. -/
def toBytes : Nat → Nat → List UInt8
  | 0, _ => []
  | count + 1, n => UInt8.ofNat n :: toBytes count (n / 256)

/-- The field element that a point's bytes stand for. The highest bit does not
    count, and a number from the prime on stands for its remainder. -/
def element (bytes : List UInt8) : Nat :=
  ofBytes bytes % (prime + 19) % prime

/-- A scalar with its three lowest bits cleared, bit 255 cleared and bit 254
    set. -/
def clamp (n : Nat) : Nat :=
  let top := 0x4000000000000000000000000000000000000000000000000000000000000000
  n % top / 8 * 8 + top

/-! ## The ladder -/

/-- Two points with a fixed difference, each by its projective coordinates. -/
structure Rungs where
  x2 : Nat
  z2 : Nat
  x3 : Nat
  z3 : Nat

def Rungs.swap (r : Rungs) (b : Bool) : Rungs :=
  if b then ⟨r.x3, r.z3, r.x2, r.z2⟩ else r

/-- Doubles the first point and adds both, for points that differ by `u`. -/
def Rungs.climb (u : Nat) (r : Rungs) : Rungs :=
  let a := add r.x2 r.z2
  let aa := mul a a
  let b := sub r.x2 r.z2
  let bb := mul b b
  let e := sub aa bb
  let da := mul (sub r.x3 r.z3) a
  let cb := mul (add r.x3 r.z3) b
  let s := add da cb
  let d := sub da cb
  { x2 := mul aa bb
    z2 := mul e (add aa (mul 121665 e))
    x3 := mul s s
    z3 := mul u (mul d d) }

/-- Climbs through the bits of the scalar below `bits`, the highest first. -/
def ladder (u scalar : Nat) : Nat → Rungs → Rungs
  | 0, r => r
  | bits + 1, r =>
    let b := scalar.testBit bits
    ladder u scalar bits (((r.swap b).climb u).swap b)

/-- The first coordinate of `scalar` times the point with coordinate `u`. -/
def scale (scalar u : Nat) : Nat :=
  let r := ladder u scalar 255 ⟨1, 0, u, 1⟩
  mul r.x2 (inverse r.z2)

/-- The base point times a clamped scalar, from bytes to bytes. -/
def publicOf (secret : List UInt8) : List UInt8 :=
  toBytes 32 (scale (clamp (ofBytes secret)) 9)

end TunnelSession.Key.Curve
