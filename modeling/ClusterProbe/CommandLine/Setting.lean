import ClusterProbe.Config
import ClusterProbe.Text.Decimal

/-!
# Settings

The settings of a probe that a command line can give, with their names.  Every setting takes a value
and may be given once.
-/

namespace ClusterProbe.CommandLine

inductive Setting where
  | endpoint
  | address
  | multiplier
  | level
  | timeout
  | interval
  | keypair
deriving DecidableEq, Repr

namespace Setting

/-- The settings, in the order of the help text. -/
def all : List Setting :=
  [.endpoint, .address, .multiplier, .level, .timeout, .interval, .keypair]

def long : Setting → String
  | .endpoint => "url"
  | .address => "program-id"
  | .multiplier => "fee-multiplier"
  | .level => "commitment"
  | .timeout => "confirm-timeout-secs"
  | .interval => "poll-interval-ms"
  | .keypair => "keypair"

def short : Setting → Option Char
  | .endpoint => some 'u'
  | .address => some 'p'
  | .keypair => some 'k'
  | .multiplier => none
  | .level => none
  | .timeout => none
  | .interval => none

def valueName : Setting → String
  | .endpoint => "URL"
  | .address => "PROGRAM_ID"
  | .multiplier => "FEE_MULTIPLIER"
  | .level => "COMMITMENT"
  | .timeout => "CONFIRM_TIMEOUT_SECS"
  | .interval => "POLL_INTERVAL_MS"
  | .keypair => "KEYPAIR"

/-- The value that a command line gives if it does not name the setting, as text; the keypair alone
has none. -/
def defaultText : Setting → Option String
  | .endpoint => some ({} : Config).endpoint
  | .address => some ({} : Config).address
  | .multiplier => some (Decimal.text ({} : Config).multiplier.toNat)
  | .level => some Commitment.confirmed.name
  | .timeout => some (Decimal.text 30)
  | .interval => some (Decimal.text 250)
  | .keypair => none

/-- The values that a setting can take, where these are few. -/
def vocabulary : Setting → List String
  | .level => Commitment.all.map Commitment.name
  | _ => []

def summary : Setting → List String
  | .endpoint => ["JSON-RPC endpoint of the cluster under test"]
  | .address => ["Base58 address of the program that receives the probe instruction"]
  | .multiplier => ["Airdrop size, in multiples of the single-signature fee"]
  | .timeout => ["Give up waiting for a signature after this many seconds"]
  | .keypair =>
    ["Pay with an existing keypair file (JSON byte array) instead of a freshly airdropped one. " ++
      "The account must already hold enough lamports"]
  | .level => []
  | .interval => []

/-- What the help text says of a setting. -/
def description (s : Setting) : String :=
  let defaults := s.defaultText.toList.map fun text => "[default: " ++ text ++ "]"
  let values := if s.vocabulary = [] then [] else
    ["[possible values: " ++ String.intercalate ", " s.vocabulary ++ "]"]
  String.intercalate " " (s.summary ++ defaults ++ values)

/-- A setting as faults name it. -/
def label (s : Setting) : String := "--" ++ s.long ++ " <" ++ s.valueName ++ ">"

def usage (s : Setting) : String :=
  (match s.short with
    | some c => "  -" ++ String.singleton c ++ ", "
    | none => "      ") ++ s.label

def ofLong? (name : String) : Option Setting := all.find? (·.long = name)

def ofShort? (c : Char) : Option Setting := all.find? (·.short = some c)

end Setting

/-- The two requests that end a command line at once. -/
inductive Request where
  | help
  | version
deriving DecidableEq, Repr

namespace Request

def long : Request → String
  | .help => "help"
  | .version => "version"

def short : Request → Char
  | .help => 'h'
  | .version => 'V'

def ofLong? (name : String) : Option Request := [help, version].find? (·.long = name)

def ofShort? (c : Char) : Option Request := [help, version].find? (·.short = c)

end Request

def commandName : String := "dropcheck-app"

def versionText : String := commandName ++ " 0.1.0\n"

/-- The help text of a command that was called by the given name. -/
def helpText (name : String) : String :=
  "Airdrop a fresh fee payer and submit a probe instruction to a Solana program\n\nUsage: " ++
    name ++ " [OPTIONS]\n\nOptions:\n" ++
    String.join (Setting.all.map fun s => s.usage ++ "\n          " ++ s.description ++ "\n") ++
    "  -h, --help\n          Print help\n  -V, --version\n          Print version\n"

end ClusterProbe.CommandLine
