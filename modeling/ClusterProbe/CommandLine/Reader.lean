import ClusterProbe.CommandLine.Choice

/-!
# Reading a command line

Arguments are read from left to right.  A setting's value stands behind its name: in the same
argument, or in the next one, which then is held until the setting is closed by the next setting or
request or by the end of the line.  Only then is it looked at, so an argument that is nothing known
is reported before a bad value that stands in front of it.
-/

namespace ClusterProbe.CommandLine

/-- What has been read so far: the choices that were made, and the setting that is still open, with
its value if that has been read. -/
structure State where
  choices : List Choice := []
  pending : Option (Setting × Option Argument) := none

/-- Makes one more choice, unless there is one of that setting. -/
def choose (choices : List Choice) (setting : Setting) (value : Argument) :
    Except Fault (List Choice) :=
  if choices.any (·.setting = setting) then .error (.repeated setting)
  else (Choice.read setting value).map fun choice => choices ++ [choice]

namespace State

def close (state : State) : Except Fault (List Choice) :=
  match state.pending with
  | none => .ok state.choices
  | some (setting, none) => .error (.noValue setting)
  | some (setting, some value) => choose state.choices setting value

/-- Opens a setting, with its value if that is in the same argument. -/
def start (state : State) (setting : Setting) (value : Option Argument) : Except Fault State := do
  -- Whatever is wrong with the setting before comes first.
  let choices ← state.close
  match value with
  | none => return { choices, pending := some (setting, none) }
  | some value => return { choices := ← choose choices setting value }

/-- Closes the open setting and gives way to a request. -/
def grant (state : State) (request : Request) : Except Fault State := do
  let _ ← state.close
  throw (.request request)

/-- Reads an argument that begins with two dashes and goes on with `body`. -/
def long (state : State) (body : Argument) : Except Fault State :=
  let name := body.takeWhile (· ≠ 0x3D)
  let value :=
    match body.dropWhile (· ≠ 0x3D) with
    | [] => none
    | _ :: value => some value
  let unknown := Fault.unexpected ("--" ++ Utf8.decodeLossy name)
  match Utf8.decode? name with
  | none => .error unknown
  | some text =>
    match Setting.ofLong? text, Request.ofLong? text with
    | some setting, _ => state.start setting value
    | none, some request =>
      match value with
      | none => state.grant request
      | some value => .error (.unwantedValue request (Utf8.decodeLossy value))
    | none, none => .error unknown

/-- Reads an argument that begins with one dash and goes on with `letters`.  Requests take no value,
so the first letter settles the matter. -/
def short (state : State) (letters : Argument) : Except Fault State :=
  match letters with
  | [] => .ok state
  | b :: rest =>
    match Utf8.step b rest with
    | (none, _) => .error (.unexpected ("-" ++ Utf8.decodeLossy letters))
    | (some c, rest) =>
      match Setting.ofShort? c, Request.ofShort? c with
      | some setting, _ =>
        let value :=
          match rest with
          | [] => none
          | b :: after => some (if b = 0x3D then after else rest)
        state.start setting value
      | none, some request => state.grant request
      | none, none => .error (.unexpected ("-" ++ String.singleton c))

/-- Reads any other argument: the value of the open setting if that has none, else nothing known. -/
def plain (state : State) (argument : Argument) : Except Fault State :=
  match state.pending with
  | some (setting, none) => .ok { state with pending := some (setting, some argument) }
  | _ => .error (.unexpected (Utf8.decodeLossy argument))

end State

/-- Reads arguments from a state on.  Two dashes alone end the settings, and nothing may follow. -/
def readFrom (state : State) : List Argument → Except Fault (List Choice)
  | [] => state.close
  | argument :: rest =>
    match argument with
    | [0x2D, 0x2D] =>
      match rest with
      | [] => state.close
      | extra :: _ => .error (.unexpected (Utf8.decodeLossy extra))
    | 0x2D :: 0x2D :: body => do readFrom (← state.long body) rest
    | 0x2D :: b :: letters => do readFrom (← state.short (b :: letters)) rest
    | _ => do readFrom (← state.plain argument) rest

def read (arguments : List Argument) : Except Fault Config :=
  (readFrom {} arguments).map Choice.config

end ClusterProbe.CommandLine
