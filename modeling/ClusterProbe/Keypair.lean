import ClusterProbe.Crypto.Ed25519

/-!
# Key pairs

A key pair is a 32-octet seed with the public key that follows from it.  Stored, it is the seed and
then the public key.
-/

namespace ClusterProbe

structure Keypair where
  seed : Octets 32
  publicKey : PublicKey
  publicKey_eq : publicKey = Ed25519.publicKey seed

namespace Keypair

def ofSeed (seed : Octets 32) : Keypair := ⟨seed, Ed25519.publicKey seed, rfl⟩

def sign (k : Keypair) (message : List UInt8) : Signature :=
  Ed25519.sign k.seed k.publicKey message

inductive Fault where
  | tooShort
  /-- What follows the seed is longer than a public key. -/
  | keyLength
  /-- What follows the seed is no point of the curve. -/
  | notOnCurve
  /-- What follows the seed is the key of another one. -/
  | keyMismatch
deriving DecidableEq, Repr

def Fault.message : Fault → String
  | .tooShort => "signature error: candidate keypair byte array is too short"
  | .keyLength => "signature error: PublicKey must be 32 bytes in length"
  | .notOnCurve => "signature error: Cannot decompress Edwards point"
  | .keyMismatch =>
    "signature error: keypair bytes do not specify same pubkey as derived from their secret key"

/-- The key pair that is stored in the given octets. -/
def ofOctets (octets : List UInt8) : Except Fault Keypair :=
  if octets.length < 64 then .error .tooShort
  else match Octets.ofList? 32 (octets.take 32), Octets.ofList? 32 (octets.drop 32) with
    | some seed, some key =>
      if (Ed25519.Point.decompress key).isNone then .error .notOnCurve
      else
        let derived := Ed25519.publicKey seed
        if h : key = derived then .ok ⟨seed, key, h⟩ else .error .keyMismatch
    | _, _ => .error .keyLength

end Keypair

end ClusterProbe
