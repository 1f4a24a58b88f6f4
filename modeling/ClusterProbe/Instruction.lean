import ClusterProbe.Octets

/-!
# Instructions

A call of an on-chain program: the accounts that it may touch, and data that only the program
understands.
-/

namespace ClusterProbe

/-- An account that an instruction names, and what the instruction needs of it. -/
structure AccountMeta where
  key : PublicKey
  signer : Bool
  /-- The account may be changed. -/
  writable : Bool
deriving DecidableEq

structure Instruction where
  programId : PublicKey
  accounts : List AccountMeta
  data : List UInt8
deriving DecidableEq

namespace Instruction

/-- The data of a probe: a single zero, which no rule interprets. -/
def probePayload : List UInt8 := [0]

/-- The probe of a program: the payload alone, with no accounts. -/
def probe (programId : PublicKey) : Instruction := ⟨programId, [], probePayload⟩

/-- The lowest eight octets of a number, least significant first. -/
def count (n : Nat) : List UInt8 :=
  (List.range 8).map fun i => UInt8.ofNat (n / Nat.pow 256 i)

/-- The instruction on its own: the program, then the accounts and the data, each after its
count. -/
def octets (i : Instruction) : List UInt8 :=
  i.programId.toList ++ count i.accounts.length ++
    i.accounts.flatMap (fun a =>
      a.key.toList ++ [if a.signer then 1 else 0, if a.writable then 1 else 0]) ++
    count i.data.length ++ i.data

end Instruction

end ClusterProbe
