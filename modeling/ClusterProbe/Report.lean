import ClusterProbe.CommandLine.Reader
import ClusterProbe.Probe.Course

/-!
# Reports

What the command shows of a run, and its exit code.  The first line names the program and the node;
a run that succeeded adds three more lines, and one that failed is reported as an error with all
that caused it.
-/

namespace ClusterProbe

structure Report where
  exitCode : Nat
  stdout : String
  stderr : String
deriving DecidableEq, Repr

namespace Report

def announcement (config : Config) : String :=
  "[RUN] Probing " ++ config.address ++ " via " ++ config.endpoint ++ "\n"

def funding (r : Receipt) : String :=
  match r.airdrop with
  | some signature =>
    "[FUND] payer " ++ r.payer.toBase58 ++ " airdropped " ++ Decimal.text r.lamports.toNat ++
      " lamports (" ++ signature.toBase58 ++ ")\n"
  | none => "[FUND] payer " ++ r.payer.toBase58 ++ " supplied, no airdrop\n"

def success (r : Receipt) : String :=
  funding r ++ "[DONE] probe tx " ++ r.transaction.toBase58 ++ " landed on " ++
    r.program.toBase58 ++ "\nsuccess!\n"

/-- A text whose lines after the first are indented. -/
def indented (indent text : String) : String :=
  String.ofList (text.toList.flatMap fun c => if c = '\n' then '\n' :: indent.toList else [c])

/-- A number, right-aligned in five columns. -/
def column (n : Nat) : String :=
  let digits := Decimal.digits n
  String.ofList (List.replicate (5 - digits.length) ' ' ++ digits)

/-- The causes of a failure, one below the other; several causes are numbered. -/
def causes : List String → String
  | [] => ""
  | [cause] => "    " ++ indented "    " cause ++ "\n"
  | many =>
    String.join (many.zipIdx.map fun (cause, n) =>
      column n ++ ": " ++ indented "       " cause ++ "\n")

def failure (fault : ProbeFault) : String :=
  "Error: airdrop-and-submit probe failed\n\nCaused by:\n" ++
    causes (fault.message :: fault.causes)

def ofResult (config : Config) : Probe.Result → Report
  | .ok r => ⟨0, announcement config ++ success r, ""⟩
  | .error (.failed fault) => ⟨1, announcement config, failure fault⟩
  | .error (.crashed text) => ⟨101, announcement config, text ++ "\n"⟩

/-- The report of a command line without a configuration. -/
def ofFault (name : String) (fault : CommandLine.Fault) : Report :=
  match fault with
  | .request _ => ⟨fault.exitCode, fault.message .stream name, ""⟩
  | _ => ⟨fault.exitCode, "", fault.message .stream name⟩

end Report

end ClusterProbe
