import ClusterProbe.Crypto.Sha512
import ClusterProbe.Radix

/-!
# Ed25519 signatures

Points of the curve `-x² + y² = 1 + d x² y²` over the integers modulo `2 ^ 255 - 19`, in extended
coordinates, and the signatures over them.  Numbers are written in octets least significant first.
A point is written as its `y`, with the lowest bit of `x` in the top bit.
-/

namespace ClusterProbe.Ed25519

/-- The number of field elements. -/
def prime : Nat := Nat.pow 2 255 - 19

def order : Nat := Nat.pow 2 252 + 27742317777372353535851937790883648493

/-- The number written in octets least significant first. -/
def number (octets : List UInt8) : Nat := Radix.value 256 (octets.reverse.map UInt8.toNat)

/-- The lowest `count` octets of a number, least significant first. -/
def octets : (count : Nat) → Nat → List UInt8
  | 0, _ => []
  | count + 1, n => UInt8.ofNat (n % 256) :: octets count (n / 256)

theorem length_octets (count n : Nat) : (octets count n).length = count := by
  induction count generalizing n with
  | zero => rfl
  | succ count ih => simp [octets, ih]

/-- The lowest `n` octets of a number. -/
def encode (n number : Nat) : Octets n := ⟨octets n number, length_octets n number⟩

def sub (a b : Nat) : Nat := (a + prime - b) % prime

/-- `base ^ exponent` modulo the prime, with at most `bits` bits of the exponent. -/
def power (base : Nat) : (bits : Nat) → (exponent : Nat) → Nat
  | 0, _ => 1
  | bits + 1, exponent =>
    let half := power (base * base % prime) bits (exponent / 2)
    if exponent % 2 = 1 then base * half % prime else half

def inverse (a : Nat) : Nat := power a 256 (prime - 2)

/-- The constant of the curve. -/
def d : Nat := 37095705934669439343138083508754565189542113879843219016388785533085940283555

def rootOfMinusOne : Nat :=
  19681161376707505956807079304988542015446066515923890162744021073123829784752

/-- A point in extended coordinates: `x = X / Z`, `y = Y / Z`, `x y = T / Z`. -/
structure Point where
  x : Nat
  y : Nat
  z : Nat
  t : Nat

namespace Point

def zero : Point := ⟨0, 1, 1, 0⟩

def base : Point :=
  let x := 15112221349535400772501151409588531511454012693041857206046113283949847762202
  let y := 46316835694926478169428394003475163141307993866256225615783033603165251855960
  ⟨x, y, 1, x * y % prime⟩

def add (p q : Point) : Point :=
  let a := sub p.y p.x * sub q.y q.x % prime
  let b := (p.y + p.x) * (q.y + q.x) % prime
  let c := 2 * p.t * q.t % prime * d % prime
  let e := 2 * p.z * q.z % prime
  let f := sub b a
  let g := sub e c
  let h := (e + c) % prime
  let i := (b + a) % prime
  ⟨f * g % prime, h * i % prime, g * h % prime, f * i % prime⟩

/-- The point added to itself `n` times, for an `n` of at most `bits` bits. -/
def multiply (p : Point) : (bits : Nat) → (n : Nat) → Point
  | 0, _ => zero
  | bits + 1, n =>
    let rest := multiply (p.add p) bits (n / 2)
    if n % 2 = 1 then p.add rest else rest

def compress (p : Point) : Octets 32 :=
  let w := inverse p.z
  encode 32 (p.y * w % prime + p.x * w % prime % 2 * Nat.pow 2 255)

/-- Equality as points, whatever the coordinates. -/
def same (p q : Point) : Bool :=
  p.x * q.z % prime = q.x * p.z % prime && p.y * q.z % prime = q.y * p.z % prime

/-- The point of 32 octets, unless their `y` belongs to no point.  A `y` of the prime or more stands
for its remainder. -/
def decompress (octets : Octets 32) : Option Point :=
  let n := number octets.toList
  let y := n % Nat.pow 2 255 % prime
  let u := sub (y * y % prime) 1
  let v := (d * (y * y % prime) + 1) % prime
  let v3 := v * v % prime * v % prime
  let v7 := v3 * v3 % prime * v % prime
  -- `r` is a square root of `u / v`, or of its negative, if there is one of either.
  let r := u * v3 % prime * power (u * v7 % prime) 256 ((prime - 5) / 8) % prime
  let check := v * (r * r % prime) % prime
  let root? :=
    if check = u then some r
    else if check = sub 0 u then some (r * rootOfMinusOne % prime)
    else none
  root?.map fun root =>
    -- Of the two roots, the one with the lowest bit asked for.
    let x := if root % 2 = n / Nat.pow 2 255 % 2 then root else sub 0 root
    ⟨x, y, 1, x * y % prime⟩

end Point

/-! ## Keys and signatures -/

/-- The secret scalar and the nonce key that a seed stands for. -/
def expand (seed : Octets 32) : Nat × List UInt8 :=
  let h := (Sha512.hash seed.toList).toList
  let n := number (h.take 32)
  -- The scalar is a multiple of eight with its highest bit in a fixed place.
  (n % Nat.pow 2 254 / 8 * 8 + Nat.pow 2 254, h.drop 32)

def publicKey (seed : Octets 32) : Octets 32 :=
  (Point.base.multiply 255 (expand seed).1).compress

/-- The number that a hash stands for among the multiples of the base point. -/
def scalar (h : Octets 64) : Nat := number h.toList % order

/-- The signature of a message under a seed and its public key. -/
def sign (seed key : Octets 32) (message : List UInt8) : Octets 64 :=
  let (secret, nonceKey) := expand seed
  let r := scalar (Sha512.hash (nonceKey ++ message))
  let point := (Point.base.multiply 253 r).compress
  let k := scalar (Sha512.hash (point.toList ++ key.toList ++ message))
  let s := encode 32 ((r + k * secret) % order)
  ⟨point.toList ++ s.toList, by simp [point.length_toList, s.length_toList]⟩

/-- The signature belongs to the message and the public key. -/
def verify (key : Octets 32) (message : List UInt8) (signature : Octets 64) : Bool :=
  let s := number (signature.toList.drop 32)
  (Octets.ofList? 32 (signature.toList.take 32)).any fun r =>
    (Point.decompress key).any fun a =>
      (Point.decompress r).any fun point =>
        let k := scalar (Sha512.hash (r.toList ++ key.toList ++ message))
        s < order && (Point.base.multiply 253 s).same (point.add (a.multiply 253 k))

end ClusterProbe.Ed25519
