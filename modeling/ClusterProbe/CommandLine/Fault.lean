import ClusterProbe.CommandLine.Setting
import ClusterProbe.Text.Decimal
import ClusterProbe.Text.Terminal
import ClusterProbe.Text.Utf8

/-!
# Refused command lines

Why a command line gives no configuration, and what is shown instead.
-/

namespace ClusterProbe.CommandLine

/-- An argument, as the system passes it; by custom it is UTF-8. -/
abbrev Argument := List UInt8

inductive Fault where
  | request (request : Request)
  /-- It has an argument that is nothing known; given as it is shown. -/
  | unexpected (argument : String)
  | repeated (setting : Setting)
  | noValue (setting : Setting)
  | impossible (setting : Setting) (value : String)
  | noCount (setting : Setting) (value : String) (why : Decimal.Fault)
  | notUtf8
  /-- It gives a value to a request, which takes none. -/
  | unwantedValue (request : Request) (value : String)
deriving DecidableEq, Repr

namespace Fault

/-- The parts of a path, less empty ones and dots that stand for the place itself. -/
def nameParts (path : Argument) : List Argument :=
  (path.splitOn 0x2F).filter fun part => part ≠ [] ∧ part ≠ [0x2E]

/-- The name by which the help text calls the command: the last part of the path that it was called
by, if that is a name. -/
def calledName (path : Option Argument) : String :=
  match (path.map nameParts).getD [] |>.getLast? with
  | none => commandName
  | some part => if part = [0x2E, 0x2E] then commandName else (Utf8.decode? part).getD commandName

/-- The text of a fault in a command line, for a command called by the given name.  What it takes
from the command line is shown without control sequences. -/
def text (supply : Terminal.Supply) (name : String) (fault : Fault) : String :=
  let plain (s : String) : String := Terminal.shown supply s
  match fault with
  | .request .help => helpText (plain name)
  | .request .version => versionText
  | .unexpected argument => "error: unexpected argument '" ++ plain argument ++ "' found"
  | .repeated setting =>
    "error: the argument '" ++ setting.label ++ "' cannot be used multiple times"
  | .noValue setting =>
    "error: a value is required for '" ++ setting.label ++ "' but none was supplied"
  | .impossible setting value =>
    "error: invalid value '" ++ plain value ++ "' for '" ++ setting.label ++ "'"
  | .noCount setting value why =>
    "error: invalid value '" ++ plain value ++ "' for '" ++ setting.label ++ "': " ++ why.message
  | .notUtf8 => "error: invalid UTF-8 was detected in one or more arguments"
  | .unwantedValue asked value =>
    "error: unexpected value '" ++ plain value ++ "' for '--" ++ asked.long ++
      "' found; no more were expected"

/-- What is shown: a request in full, any other fault up to its first line feed. -/
def message (supply : Terminal.Supply) (name : String) (fault : Fault) : String :=
  match fault with
  | .request _ => fault.text supply name
  | _ => Terminal.firstLine (fault.text supply name)

def exitCode : Fault → Nat
  | .request _ => 0
  | _ => 2

end Fault

end ClusterProbe.CommandLine
