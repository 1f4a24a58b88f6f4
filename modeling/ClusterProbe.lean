import ClusterProbe.Ledger.Scripted
import ClusterProbe.Main
import ClusterProbe.Proofs.Probe.Interrupts
import ClusterProbe.Proofs.Probe.Calls
import ClusterProbe.Proofs.Probe.Verdict
import ClusterProbe.Proofs.Base58
import ClusterProbe.Proofs.Rpc.Log
import ClusterProbe.Proofs.Rpc.Wait
import ClusterProbe.Proofs.Rpc.Calls
import ClusterProbe.Proofs.Rpc.Run
import ClusterProbe.Proofs.Address
import ClusterProbe.Proofs.Probe.Halt
import ClusterProbe.Proofs.Rpc.Verdicts
import ClusterProbe.Proofs.Transaction
import ClusterProbe.Proofs.Utf8
import ClusterProbe.Proofs.Decimal
import ClusterProbe.Proofs.CommandLine.Grammar
import ClusterProbe.Proofs.CommandLine.Counts
import ClusterProbe.Proofs.Rpc.Crashes
import ClusterProbe.Proofs.Rpc.Submissions
import ClusterProbe.Proofs.Report
import ClusterProbe.Proofs.Wire
import ClusterProbe.Proofs.Rpc.Turns
import ClusterProbe.Proofs.Rpc.Pace
import ClusterProbe.Proofs.Crypto.Prime
import ClusterProbe.Proofs.Crypto.Curve
import ClusterProbe.Proofs.Crypto.Compression
import ClusterProbe.Proofs.Json
import ClusterProbe.Proofs.KeypairFile
import ClusterProbe.Proofs.Probe.Payer
import ClusterProbe.Proofs.Probe.Messages
import ClusterProbe.Proofs.Rpc.Levels
import ClusterProbe.Proofs.Probe.Independence
import ClusterProbe.Proofs.Rpc.Funding
