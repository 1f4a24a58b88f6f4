import ClusterProbe.Text.Float64
import ClusterProbe.Text.Quoted

/-!
# JSON values

An object is a list of members in the order of their names, each name once; `Json.ofMembers` brings
members into that order, the last of equal names winning.  A number is kept as a 64-bit count or as
a negative 64-bit integer where it is written as one, and as a double otherwise.
-/

namespace ClusterProbe

inductive Json.Number where
  | count (n : Nat)
  | negative (n : Nat)
  | double (x : Float)

inductive Json where
  | null
  | bool (b : Bool)
  | number (n : Json.Number)
  | string (s : String)
  | array (items : List Json)
  | object (members : List (String × Json))

namespace Json

instance : Inhabited Json := ⟨null⟩

/-- Puts a member in the place that its name has in the order, over an older one of that name. -/
def insert (name : String) (value : Json) : List (String × Json) → List (String × Json)
  | [] => [(name, value)]
  | (n, v) :: rest =>
    if name < n then (name, value) :: (n, v) :: rest
    else if name = n then (name, value) :: rest
    else (n, v) :: insert name value rest

/-- An object of the given members, later ones winning. -/
def ofMembers (members : List (String × Json)) : Json :=
  object (members.foldl (fun sorted (name, value) => insert name value sorted) [])

/-- The value of a member of an object; `null` where there is none. -/
def member (name : String) : Json → Json
  | object members => (members.lookup name).getD null
  | _ => null

def ofNat (n : Nat) : Json := number (.count n)

def Number.text : Number → String
  | count n => Decimal.text n
  | negative n => "-" ++ Decimal.text n
  | double x => Float64.text x

/-- A character inside a JSON string. -/
def escape (c : Char) : List Char :=
  if c = '"' ∨ c = '\\' then ['\\', c]
  else if c = '\x08' then ['\\', 'b']
  else if c = '\x0c' then ['\\', 'f']
  else if c = '\n' then ['\\', 'n']
  else if c = '\r' then ['\\', 'r']
  else if c = '\t' then ['\\', 't']
  else if c.toNat < 0x20 then
    ['\\', 'u', '0', '0', Text.hexDigit (c.toNat / 16), Text.hexDigit (c.toNat % 16)]
  else [c]

def quoted (s : String) : String :=
  String.ofList ('"' :: s.toList.flatMap escape ++ ['"'])

mutual

/-- The value on one line, without blanks. -/
def compact : Json → String
  | null => "null"
  | bool b => if b then "true" else "false"
  | number n => n.text
  | string s => quoted s
  | array items => "[" ++ compactItems items ++ "]"
  | object members => "\x7b" ++ compactMembers members ++ "\x7d"

def compactItems : List Json → String
  | [] => ""
  | [x] => compact x
  | x :: y :: rest => compact x ++ "," ++ compactItems (y :: rest)

def compactMembers : List (String × Json) → String
  | [] => ""
  | [(n, v)] => quoted n ++ ":" ++ compact v
  | (n, v) :: m :: rest => quoted n ++ ":" ++ compact v ++ "," ++ compactMembers (m :: rest)

end

end Json

end ClusterProbe
