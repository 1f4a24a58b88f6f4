/-!
# Octet strings of a fixed length

Public keys, block hashes and signatures are octet strings of 32, 32 and 64 octets.  The length is
part of the type, so nothing downstream has to check it again.
-/

namespace ClusterProbe

/-- A string of exactly `n` octets. -/
structure Octets (n : Nat) where
  toList : List UInt8
  length_toList : toList.length = n
deriving DecidableEq

namespace Octets

/-- The octets of a list, if there are `n` of them. -/
def ofList? (n : Nat) (octets : List UInt8) : Option (Octets n) :=
  if h : octets.length = n then some ⟨octets, h⟩ else none

def replicate (n : Nat) (octet : UInt8) : Octets n :=
  ⟨List.replicate n octet, List.length_replicate⟩

@[ext] theorem ext {n : Nat} {a b : Octets n} (h : a.toList = b.toList) : a = b := by
  cases a; cases b; simp_all

theorem ofList?_toList {n : Nat} (a : Octets n) : ofList? n a.toList = some a := by
  simp [ofList?, a.length_toList]

theorem ofList?_eq_some_iff {n : Nat} {octets : List UInt8} {a : Octets n} :
    ofList? n octets = some a ↔ a.toList = octets := by
  unfold ofList?
  split
  · simp only [Option.some.injEq]
    exact ⟨fun h => h ▸ rfl, fun h => ext h.symm⟩
  · next hne =>
    simp only [reduceCtorEq, false_iff]
    exact fun h => hne (h ▸ a.length_toList)

end Octets

/-- The key that names an account or a program. -/
abbrev PublicKey := Octets 32

/-- The hash of a recent block, which dates a transaction. -/
abbrev BlockHash := Octets 32

/-- The signature of a transaction, which also names it. -/
abbrev Signature := Octets 64

end ClusterProbe
