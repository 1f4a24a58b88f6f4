/-!
# Steps

The steps of a probe, in order.  The interrupt flag is looked at before each of them.
-/

namespace ClusterProbe

inductive Step where
  | decodeProgram
  | connect
  | queryFees
  | generatePayer
  | requestAirdrop
  | confirmAirdrop
  | buildInstruction
  | submitTransaction
  | confirmTransaction
deriving DecidableEq, Repr

def Step.name : Step → String
  | .decodeProgram => "decode-program"
  | .connect => "connect"
  | .queryFees => "query-fees"
  | .generatePayer => "generate-payer"
  | .requestAirdrop => "request-airdrop"
  | .confirmAirdrop => "confirm-airdrop"
  | .buildInstruction => "build-instruction"
  | .submitTransaction => "submit-transaction"
  | .confirmTransaction => "confirm-transaction"

end ClusterProbe
