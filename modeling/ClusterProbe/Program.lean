import ClusterProbe.Report
import ClusterProbe.Rpc.Client

/-!
# The program

A command line, run against a node and the files around it.
-/

namespace ClusterProbe.Program

structure Trace where
  report : Report
  /-- The requests that were posted, in order. -/
  posted : List Rpc.Request

def client (config : Config) (listens : String × Nat → Bool) : Rpc.Client :=
  ⟨config.endpoint, config.confirmation, listens⟩

/-- A probe over the client of a node, from a given flag on. -/
def probe (config : Config) (listens : String × Nat → Bool) (around : Surroundings)
    (replies : List Rpc.Reply) (flag : Bool) : Played Rpc.Session Probe.Result :=
  Probe.run config around (client config listens).ledger
    { exchanges := Rpc.Exchange.ofReplies replies, flag } flag

/-- Runs a command that was called by the given name. -/
def run (name : String) (arguments : List CommandLine.Argument) (listens : String × Nat → Bool)
    (around : Surroundings) (replies : List Rpc.Reply) : Trace :=
  match CommandLine.read arguments with
  | .error fault => ⟨.ofFault name fault, []⟩
  | .ok config =>
    let played := probe config listens around replies false
    ⟨.ofResult config played.result, played.state.posted⟩

end ClusterProbe.Program
