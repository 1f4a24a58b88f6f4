import ClusterProbe.Json.Basic

/-!
# Values of the wrong shape

When a JSON value is read as something of a given shape, a misfit says what was found instead.
-/

namespace ClusterProbe.Json

inductive Found where
  | null
  | bool (b : Bool)
  | number (n : Number)
  | string (s : String)
  | sequence
  | map
  /-- A variant that comes without the payload it should have. -/
  | bareVariant

/-- What a value is when nothing else is known of it. -/
def found : Json → Found
  | null => .null
  | bool b => .bool b
  | number n => .number n
  | string s => .string s
  | array _ => .sequence
  | object _ => .map

def Found.message : Found → String
  | .null => "null"
  | .bool b => "boolean \x60" ++ (if b then "true" else "false") ++ "\x60"
  | .number (.double x) => "floating point \x60" ++ Float64.text x ++ "\x60"
  | .number n => "integer \x60" ++ n.text ++ "\x60"
  | .string s => "string " ++ Text.quoted s
  | .sequence => "sequence"
  | .map => "map"
  | .bareVariant => "unit variant"

/-- Why a value does not have the shape that was asked for. -/
inductive Misfit where
  | type (found : Found) (expected : String)
  /-- It is of the right kind, but out of range. -/
  | value (found : Found) (expected : String)
  | length (n : Nat) (expected : String)
  | variant (name : String) (known : List String)
  | field (name : String)
  /-- A string does not have the inner form it should have. -/
  | text (why : String)

/-- Names between backquotes, as a choice: one name, two with "or", or more after "one of". -/
def choice : List String → String
  | [] => "there are no variants"
  | [a] => "\x60" ++ a ++ "\x60"
  | [a, b] => "\x60" ++ a ++ "\x60 or \x60" ++ b ++ "\x60"
  | names => "one of " ++ String.intercalate ", " (names.map fun n => "\x60" ++ n ++ "\x60")

def Misfit.message : Misfit → String
  | .type found expected => "invalid type: " ++ found.message ++ ", expected " ++ expected
  | .value found expected => "invalid value: " ++ found.message ++ ", expected " ++ expected
  | .length n expected => "invalid length " ++ Decimal.text n ++ ", expected " ++ expected
  | .variant name known => "unknown variant \x60" ++ name ++ "\x60, expected " ++ choice known
  | .field name => "missing field \x60" ++ name ++ "\x60"
  | .text why => why

end ClusterProbe.Json
