import ClusterProbe.Rpc.Result

/-!
# Simulations

What a node says of a transaction that it tried before passing it on.  Of a simulation only the
program's log is of interest here, but it counts only if all the rest is well formed.  A form says
which JSON values are: every record may come as an object or as the list of all its fields.
-/

namespace ClusterProbe.Rpc.Simulation

abbrev Form := Json → Bool

def any : Form := fun _ => true

def readable {α : Type} (shape : Json.Shape α) : Form := fun j =>
  match shape j with
  | .ok _ => true
  | .error _ => false

def nullable (form : Form) : Form
  | .null => true
  | j => form j

def list (form : Form) : Form
  | .array items => items.all form
  | _ => false

def either (a b : Form) : Form := fun j => a j || b j

structure Field where
  name : String
  form : Form
  /-- An object may leave the field out. -/
  optional : Bool := false

def record (fields : List Field) : Form
  | .object members => fields.all fun field =>
    match members.lookup field.name with
    | none => field.optional
    | some j => field.form j
  | .array items =>
    items.length == fields.length && (fields.zip items).all fun (field, j) => field.form j
  | _ => false

/-- A field that may be null, and that an object may leave out. -/
def Field.nullable (name : String) (form : Form) : Field := ⟨name, Simulation.nullable form, true⟩

/-- A list of values of the given forms, one of each. -/
def tuple (forms : List Form) : Form
  | .array items =>
    items.length == forms.length && (forms.zip items).all fun (form, j) => form j
  | _ => false

/-- A variant of one of some names, without a payload. -/
def oneOf (names : List String) : Form := fun j =>
  match Json.Shape.variant j with
  | .ok (name, none) => names.contains name
  | .ok (name, some .null) => names.contains name
  | _ => false

def text : Form := readable Json.Shape.string

/-! ## The records of a simulation -/

/-- The data of an account: text, parsed by a program, or text in an encoding. -/
def accountData : Form :=
  either text <|
    either (record [⟨"program", text, false⟩, ⟨"parsed", any, false⟩,
      ⟨"space", readable Json.Shape.u64, false⟩]) <|
    tuple [text, oneOf ["binary", "base58", "base64", "jsonParsed", "base64+zstd"]]

def account : Form := record [
  ⟨"lamports", readable Json.Shape.u64, false⟩, ⟨"data", accountData, false⟩,
  ⟨"owner", text, false⟩, ⟨"executable", readable Json.Shape.bool, false⟩,
  ⟨"rentEpoch", readable Json.Shape.u64, false⟩, .nullable "space" (readable Json.Shape.u64)]

def returnData : Form := record [
  ⟨"programId", text, false⟩, ⟨"data", tuple [text, oneOf ["base64"]], false⟩]

/-- How deep in other calls a call is made. -/
def stackHeight : Field := .nullable "stackHeight" (readable Json.Shape.u32)

/-- A call that names its program and its accounts by their places in the message. -/
def compiledCall : Form := record [
  ⟨"programIdIndex", readable Json.Shape.u8, false⟩,
  ⟨"accounts", list (readable Json.Shape.u8), false⟩, ⟨"data", text, false⟩, stackHeight]

def parsedCall : Form := record [
  ⟨"program", text, false⟩, ⟨"programId", text, false⟩, ⟨"parsed", any, false⟩, stackHeight]

/-- A call that names its program and its accounts by their keys. -/
def namedCall : Form := record [
  ⟨"programId", text, false⟩, ⟨"accounts", list text, false⟩, ⟨"data", text, false⟩, stackHeight]

def innerCalls : Form := record [
  ⟨"index", readable Json.Shape.u8, false⟩,
  ⟨"instructions", list (either compiledCall (either parsedCall namedCall)), false⟩]

def simulation : Form := record [
  .nullable "err" (readable transactionFault), .nullable "logs" (list text),
  .nullable "accounts" (list (nullable account)),
  .nullable "unitsConsumed" (readable Json.Shape.u64), .nullable "returnData" returnData,
  .nullable "innerInstructions" (list innerCalls)]

/-! ## The log -/

def strings : Json → List String
  | .array items => items.filterMap fun
    | .string s => some s
    | _ => none
  | _ => []

/-- The program's log in a simulation; it is empty if the simulation is not well formed. -/
def logs (j : Json) : List String :=
  if simulation j then
    match j with
    | .array items => strings (items.getD 1 .null)
    | j => strings (j.member "logs")
  else []

end ClusterProbe.Rpc.Simulation
