import ClusterProbe.CommandLine.Fault

/-!
# Choices

A choice is a setting with a value that has been read.  Choices of different settings do not depend
on each other; together, and over the defaults, they make a configuration.
-/

namespace ClusterProbe.CommandLine

inductive Choice where
  | endpoint (url : String)
  | address (text : String)
  | multiplier (n : UInt64)
  | level (level : Commitment)
  | timeout (seconds : UInt64)
  | interval (millis : UInt64)
  | keypair (path : Path)
deriving DecidableEq

namespace Choice

def setting : Choice → Setting
  | endpoint _ => .endpoint
  | address _ => .address
  | multiplier _ => .multiplier
  | level _ => .level
  | timeout _ => .timeout
  | interval _ => .interval
  | keypair _ => .keypair

def apply (config : Config) : Choice → Config
  | endpoint url => { config with endpoint := url }
  | address text => { config with address := text }
  | multiplier n => { config with multiplier := n }
  | level l => { config with confirmation.level := l }
  | timeout n => { config with confirmation.timeout := .ofSeconds n.toNat }
  | interval n => { config with confirmation.interval := .ofMillis n.toNat }
  | keypair path => { config with keypair := some path }

/-! ## Reading values -/

def readText (value : Argument) : Except Fault String :=
  match Utf8.decode? value with
  | some text => .ok text
  | none => .error .notUtf8

def readCount (setting : Setting) (value : Argument) : Except Fault UInt64 := do
  let text ← readText value
  match Decimal.read text with
  | .ok n => .ok n
  | .error why => .error (.noCount setting text why)

def readLevel (value : Argument) : Except Fault Commitment :=
  if value = [] then .error (.noValue .level)
  else match (Utf8.decode? value).bind Commitment.ofName? with
    | some c => .ok c
    | none => .error (.impossible .level (Utf8.decodeLossy value))

def readPath (value : Argument) : Except Fault Path :=
  if value = [] then .error (.noValue .keypair) else .ok value

def read (setting : Setting) (value : Argument) : Except Fault Choice :=
  match setting with
  | .endpoint => (readText value).map endpoint
  | .address => (readText value).map address
  | .multiplier => (readCount .multiplier value).map multiplier
  | .level => (readLevel value).map level
  | .timeout => (readCount .timeout value).map timeout
  | .interval => (readCount .interval value).map interval
  | .keypair => (readPath value).map keypair

/-! ## Configurations -/

/-- The choice that a command line makes if it does not name the setting. -/
def default? (setting : Setting) : Option Choice :=
  setting.defaultText.bind fun text => (read setting (Utf8.encode text)).toOption

def defaults : List Choice := Setting.all.filterMap default?

/-- The configuration of some choices, over the defaults. -/
def config (choices : List Choice) : Config := (defaults ++ choices).foldl apply {}

end Choice

end ClusterProbe.CommandLine
