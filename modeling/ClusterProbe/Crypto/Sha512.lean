import ClusterProbe.Octets

/-!
# SHA-512

The 512-bit hash of an octet string: the message is padded to blocks of 128 octets, and each block
is mixed into eight 64-bit words by eighty rounds.
-/

namespace ClusterProbe.Sha512

/-- The eight words that are carried from block to block. -/
structure State where
  a : UInt64
  b : UInt64
  c : UInt64
  d : UInt64
  e : UInt64
  f : UInt64
  g : UInt64
  h : UInt64

def State.start : State :=
  ⟨0x6a09e667f3bcc908, 0xbb67ae8584caa73b, 0x3c6ef372fe94f82b, 0xa54ff53a5f1d36f1,
   0x510e527fade682d1, 0x9b05688c2b3e6c1f, 0x1f83d9abfb41bd6b, 0x5be0cd19137e2179⟩

def roundConstants : List UInt64 :=
  [0x428a2f98d728ae22, 0x7137449123ef65cd, 0xb5c0fbcfec4d3b2f, 0xe9b5dba58189dbbc,
   0x3956c25bf348b538, 0x59f111f1b605d019, 0x923f82a4af194f9b, 0xab1c5ed5da6d8118,
   0xd807aa98a3030242, 0x12835b0145706fbe, 0x243185be4ee4b28c, 0x550c7dc3d5ffb4e2,
   0x72be5d74f27b896f, 0x80deb1fe3b1696b1, 0x9bdc06a725c71235, 0xc19bf174cf692694,
   0xe49b69c19ef14ad2, 0xefbe4786384f25e3, 0x0fc19dc68b8cd5b5, 0x240ca1cc77ac9c65,
   0x2de92c6f592b0275, 0x4a7484aa6ea6e483, 0x5cb0a9dcbd41fbd4, 0x76f988da831153b5,
   0x983e5152ee66dfab, 0xa831c66d2db43210, 0xb00327c898fb213f, 0xbf597fc7beef0ee4,
   0xc6e00bf33da88fc2, 0xd5a79147930aa725, 0x06ca6351e003826f, 0x142929670a0e6e70,
   0x27b70a8546d22ffc, 0x2e1b21385c26c926, 0x4d2c6dfc5ac42aed, 0x53380d139d95b3df,
   0x650a73548baf63de, 0x766a0abb3c77b2a8, 0x81c2c92e47edaee6, 0x92722c851482353b,
   0xa2bfe8a14cf10364, 0xa81a664bbc423001, 0xc24b8b70d0f89791, 0xc76c51a30654be30,
   0xd192e819d6ef5218, 0xd69906245565a910, 0xf40e35855771202a, 0x106aa07032bbd1b8,
   0x19a4c116b8d2d0c8, 0x1e376c085141ab53, 0x2748774cdf8eeb99, 0x34b0bcb5e19b48a8,
   0x391c0cb3c5c95a63, 0x4ed8aa4ae3418acb, 0x5b9cca4f7763e373, 0x682e6ff3d6b2b8a3,
   0x748f82ee5defb2fc, 0x78a5636f43172f60, 0x84c87814a1f0ab72, 0x8cc702081a6439ec,
   0x90befffa23631e28, 0xa4506cebde82bde9, 0xbef9a3f7b2c67915, 0xc67178f2e372532b,
   0xca273eceea26619c, 0xd186b8c721c0c207, 0xeada7dd6cde0eb1e, 0xf57d4f7fee6ed178,
   0x06f067aa72176fba, 0x0a637dc5a2c898a6, 0x113f9804bef90dae, 0x1b710b35131c471b,
   0x28db77f523047d84, 0x32caab7b40c72493, 0x3c9ebe0a15c9bebc, 0x431d67c49c100d4c,
   0x4cc5d4becb3e42b6, 0x597f299cfc657e2a, 0x5fcb6fab3ad6faec, 0x6c44198c4a475817]

def rotate (x n : UInt64) : UInt64 := (x >>> n) ||| (x <<< (64 - n))

/-- The number whose octets, most significant first, are given. -/
def word (octets : List UInt8) : UInt64 :=
  octets.foldl (fun n b => (n <<< 8) ||| b.toUInt64) 0

/-- The eight octets of a word, most significant first. -/
def octets (x : UInt64) : List UInt8 :=
  [(x >>> 56).toUInt8, (x >>> 48).toUInt8, (x >>> 40).toUInt8, (x >>> 32).toUInt8,
   (x >>> 24).toUInt8, (x >>> 16).toUInt8, (x >>> 8).toUInt8, x.toUInt8]

/-- The words of a message, at most `count` of them. -/
def words : (count : Nat) → List UInt8 → List UInt64
  | 0, _ => []
  | _, [] => []
  | count + 1, s => word (s.take 8) :: words count (s.drop 8)

/-- The next word of the schedule, from the sixteen words before it, oldest first. -/
def nextWord (window : List UInt64) : UInt64 :=
  let x := window.getD 1 0
  let y := window.getD 14 0
  window.getD 0 0 + (rotate x 1 ^^^ rotate x 8 ^^^ (x >>> 7)) +
    window.getD 9 0 + (rotate y 19 ^^^ rotate y 61 ^^^ (y >>> 6))

/-- The first `count` words of the schedule that begins with the given sixteen. -/
def schedule : (count : Nat) → (window : List UInt64) → List UInt64
  | 0, _ => []
  | count + 1, window =>
    window.headD 0 :: schedule count (window.tail ++ [nextWord window])

/-- One round, with its constant and its word of the schedule. -/
def round (s : State) (k w : UInt64) : State :=
  let t := s.h + (rotate s.e 14 ^^^ rotate s.e 18 ^^^ rotate s.e 41) +
    ((s.e &&& s.f) ^^^ (~~~s.e &&& s.g)) + k + w
  let u := (rotate s.a 28 ^^^ rotate s.a 34 ^^^ rotate s.a 39) +
    ((s.a &&& s.b) ^^^ (s.a &&& s.c) ^^^ (s.b &&& s.c))
  ⟨t + u, s.a, s.b, s.c, s.d + t, s.e, s.f, s.g⟩

/-- Mixes a block of sixteen words into the state. -/
def State.mix (s : State) (block : List UInt64) : State :=
  let r := (roundConstants.zip (schedule 80 block)).foldl (fun s (k, w) => round s k w) s
  ⟨s.a + r.a, s.b + r.b, s.c + r.c, s.d + r.d, s.e + r.e, s.f + r.f, s.g + r.g, s.h + r.h⟩

/-- Mixes in the first `count` blocks of a padded message. -/
def State.mixAll : (count : Nat) → State → List UInt8 → State
  | 0, s, _ => s
  | count + 1, s, message => mixAll count (s.mix (words 16 (message.take 128))) (message.drop 128)

/-- A message with its padding: a one bit, zeros, and the message's length in bits in sixteen
octets, to a multiple of 128 octets. -/
def pad (message : List UInt8) : List UInt8 :=
  let n := message.length
  let zeros := (239 - n % 128) % 128
  -- The upper half of the length is always zero here.
  message ++ 0x80 :: List.replicate (zeros + 8) 0 ++ octets (UInt64.ofNat (8 * n))

def hash (message : List UInt8) : Octets 64 :=
  let padded := pad message
  let s := State.start.mixAll (padded.length / 128) padded
  ⟨octets s.a ++ octets s.b ++ octets s.c ++ octets s.d ++ octets s.e ++ octets s.f ++ octets s.g ++
    octets s.h, rfl⟩

end ClusterProbe.Sha512
