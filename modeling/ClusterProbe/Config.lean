import ClusterProbe.Commitment
import ClusterProbe.Duration
import ClusterProbe.Files

/-!
# Configuration

Everything that a probe needs to know up front.
-/

namespace ClusterProbe

/-- How a signature is waited for. -/
structure Confirmation where
  /-- How far its transaction has to get. -/
  level : Commitment := .confirmed
  timeout : Duration := .ofSeconds 30
  /-- The pause between two looks at the signature. -/
  interval : Duration := .ofMillis 250
deriving DecidableEq

/-- What a probe needs to know. -/
structure Config where
  endpoint : String := "http://localhost:8899"
  /-- The address of the program under test, still as text: whether it is one is the first thing
  that a probe finds out. -/
  address : String := "8RzvJghJQYZBV6k6nU6adCLSBT4DEVNDxTs9v6EgoKaa"
  /-- How many single-signature fees the airdrop covers. -/
  multiplier : UInt64 := 100
  /-- How the airdrop and the transaction are waited for. -/
  confirmation : Confirmation := {}
  /-- The file of a payer with funds; without one, a payer is generated and gets an airdrop. -/
  keypair : Option Path := none
deriving DecidableEq

end ClusterProbe
