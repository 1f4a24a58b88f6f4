import ClusterProbe.Json.Misfit

/-!
# Reading values by their shape

Readers that take a JSON value for something of a given shape, or say how it fails to be one.  The
members of an object are looked at in the order of their names, so of two misfits the one under the
smaller name is reported, and a misfit before a missing member.  A record may also come as the list
of its fields.
-/

namespace ClusterProbe.Json

abbrev Shape (α : Type) := Json → Except Misfit α

namespace Shape

def mistyped {α : Type} (expected : String) (j : Json) : Except Misfit α :=
  .error (.type j.found expected)

def string : Shape String
  | .string s => .ok s
  | j => mistyped "a string" j

def bool : Shape Bool
  | .bool b => .ok b
  | j => mistyped "a boolean" j

/-- A count below `limit`, of the kind with the given name. -/
def countBelow (limit : Nat) (name : String) : Shape Nat
  | .number (.count n) =>
    if n < limit then .ok n else .error (.value (.number (.count n)) name)
  | .number (.negative n) => .error (.value (.number (.negative n)) name)
  | j => mistyped name j

def u8 : Shape Nat := countBelow UInt8.size "u8"

def u32 : Shape Nat := countBelow UInt32.size "u32"

def u64 : Shape Nat := countBelow UInt64.size "u64"

/-- A 64-bit count of things in memory. -/
def size : Shape Nat := countBelow UInt64.size "usize"

def i64 : Shape Int
  | .number (.count n) =>
    if n < UInt64.size / 2 then .ok n else .error (.value (.number (.count n)) "i64")
  | .number (.negative n) => .ok (-n)
  | j => mistyped "i64" j

def nullable {α : Type} (shape : Shape α) : Shape (Option α)
  | .null => .ok none
  | j => (shape j).map some

def list {α : Type} (shape : Shape α) : Shape (List α)
  | .array items => items.mapM shape
  | j => mistyped "a sequence" j

/-! ## Records -/

/-- The member of a name, if there is one. -/
def member? {α : Type} (members : List (String × Json)) (name : String) (shape : Shape α) :
    Except Misfit (Option α) :=
  match members.lookup name with
  | none => .ok none
  | some j => (shape j).map some

def require {α : Type} (name : String) : Option α → Except Misfit α
  | some a => .ok a
  | none => .error (.field name)

/-- The item at a place of a list that stands for a record of the given kind, which has `count`
fields. -/
def itemAt {α : Type} (kind : String) (count : Nat) (items : List Json) (place : Nat)
    (shape : Shape α) : Except Misfit α :=
  match items[place]? with
  | some j => shape j
  | none =>
    let noun := if count = 1 then " element" else " elements"
    .error (.length place (kind ++ " with " ++ Decimal.text count ++ noun))

/-- Nothing is left of a list after its first `count` items. -/
def noMore (count : Nat) (items : List Json) : Except Misfit Unit :=
  if count < items.length then .error (.length items.length "fewer elements in array") else .ok ()

/-! ## Variants -/

/-- A variant: its name, and its payload if it has one. -/
def variant : Shape (String × Option Json)
  | .string name => .ok (name, none)
  | .object [(name, payload)] => .ok (name, some payload)
  | .object _ => .error (.value .map "map with a single key")
  | j => mistyped "string or map" j

def unit : Shape Unit
  | .null => .ok ()
  | j => mistyped "unit" j

def bare : Option Json → Except Misfit Unit
  | none => .ok ()
  | some j => unit j

def payload {α : Type} (shape : Shape α) : Option Json → Except Misfit α
  | some j => shape j
  | none => .error (.type .bareVariant "newtype variant")

def listPayload {α : Type} (empty : String) (shape : List Json → Except Misfit α) :
    Option Json → Except Misfit α
  | some (.array []) => .error (.type .null empty)
  | some (.array items) => shape items
  | some j => mistyped "tuple variant" j
  | none => .error (.type .bareVariant "tuple variant")

def recordPayload {α : Type} (shape : List (String × Json) → Except Misfit α) :
    Option Json → Except Misfit α
  | some (.object members) => shape members
  | some j => mistyped "struct variant" j
  | none => .error (.type .bareVariant "struct variant")

end Shape

end ClusterProbe.Json
