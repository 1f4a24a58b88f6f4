import ClusterProbe.Keypair
import ClusterProbe.Proofs.Crypto.Compression

/-!
# Signatures that are verified

What a key pair signs is verified with its public key: the number in the signature is that of the
nonce and, as often as the hash says, that of the key, and so are the multiples of the base point.
-/

namespace ClusterProbe

namespace Ed25519

theorem order_pos : 0 < order := by decide

theorem scalar_lt (h : Octets 64) : scalar h < 2 ^ 253 :=
  (Nat.mod_lt _ order_pos).trans order_lt

/-- A number below the order is read as it was written. -/
theorem number_encode {n : Nat} (h : n < order) : number (encode 32 n).toList = n := by
  have hsize : order < 256 ^ 32 := by decide
  exact (number_octets 32 n).trans (Nat.mod_eq_of_lt (h.trans hsize))

/-- The two halves of a signature are read apart, and compared with the key. -/
theorem verify_of_halves {key point s : Octets 32} {signature : Octets 64} {message : List UInt8}
    {a r : Point} (hsignature : signature.toList = point.toList ++ s.toList)
    (hkey : Point.decompress key = some a) (hpoint : Point.decompress point = some r)
    (hs : number s.toList < order)
    (hsame : (Point.base.multiply 253 (number s.toList)).same (r.add (a.multiply 253
      (scalar (Sha512.hash (point.toList ++ key.toList ++ message))))) = true) :
    verify key message signature = true := by
  have htake : signature.toList.take 32 = point.toList := by
    rw [hsignature, List.take_left' point.length_toList]
  have hdrop : signature.toList.drop 32 = s.toList := by
    rw [hsignature, List.drop_left' point.length_toList]
  rw [verify, htake, hdrop, Octets.ofList?_toList, Option.any_some, hkey, Option.any_some, hpoint,
    Option.any_some, Bool.and_eq_true, decide_eq_true_iff]
  exact ⟨hs, hsame⟩

/-- What is signed under a seed is verified with the seed's public key. -/
theorem verify_sign (seed : Octets 32) (message : List UInt8) :
    verify (publicKey seed) message (sign seed (publicKey seed) message) = true := by
  obtain ⟨key, hkey, hkeyIs⟩ := exists_decompress_publicKey seed
  generalize hr : scalar (Sha512.hash ((expand seed).2 ++ message)) = r
  have hrlt : r < 2 ^ 253 := hr ▸ scalar_lt _
  obtain ⟨nonce, hnonce, hnonceIs⟩ :=
    (Point.Is.base.multiply hrlt).exists_decompress_compress
  generalize hpoint : (Point.base.multiply 253 r).compress = point at hnonce
  generalize hk : scalar (Sha512.hash (point.toList ++ (publicKey seed).toList ++ message)) = k
  have hklt : k < 2 ^ 253 := hk ▸ scalar_lt _
  have hslt : (r + k * (expand seed).1) % order < order := Nat.mod_lt _ order_pos
  have hsign : (sign seed (publicKey seed) message).toList =
      point.toList ++ (encode 32 ((r + k * (expand seed).1) % order)).toList := by
    simp only [sign, hr, hpoint, hk]
  refine verify_of_halves hsign hkey hnonce ?_ ?_
  · rw [number_encode hslt]
    exact hslt
  · -- Taking the remainder drops multiples of the order only, and those are nothing.
    have hsplit : ((r + k * (expand seed).1) % order) • Affine.base =
        r • Affine.base + k • (expand seed).1 • Affine.base := by
      rw [← nsmul_eq_mod_nsmul _ order_nsmul_base, add_nsmul, mul_nsmul']
    have hmultiple := Point.Is.base.multiply (hslt.trans order_lt)
    rw [hsplit] at hmultiple
    rw [number_encode hslt, hk]
    exact hmultiple.same (hnonceIs.add (hkeyIs.multiply hklt))

end Ed25519

theorem Keypair.verify_sign (k : Keypair) (message : List UInt8) :
    Ed25519.verify k.publicKey message (k.sign message) = true := by
  rw [Keypair.sign, k.publicKey_eq]
  exact Ed25519.verify_sign k.seed message

end ClusterProbe
