import ClusterProbe.Json.Misfit
import ClusterProbe.Text.Utf8

/-!
# Reading JSON text

Each reader takes the octets that are left and gives a value with the octets after it, or stops
with a fault and the number of octets still unread, from which `Position.after` finds the line and
the column.  Some faults are seen in the octet just read, some in the octet that is looked at next;
`stop` and `stopBefore` tell the two apart.

Text may be at hand as a whole or arrive octet by octet.  The only difference is where a number out
of range is reported: reading a stream has already taken the octet that ends the number.
-/

namespace ClusterProbe.Json

inductive Fault where
  | endInValue
  | endInList
  | endInObject
  | endInString
  | noValue
  | noIdent
  | noColon
  | noCommaInList
  | noCommaInObject
  | trailingComma
  | trailingCharacters
  | keyNotString
  | invalidNumber
  | numberOutOfRange
  | invalidEscape
  | controlCharacter
  | loneSurrogate
  | brokenSurrogate
  | invalidCodePoint
  | tooDeep
  /-- A value is well formed, but not of the shape asked for. -/
  | misfit (m : Misfit)

def Fault.message : Fault → String
  | .endInValue => "EOF while parsing a value"
  | .endInList => "EOF while parsing a list"
  | .endInObject => "EOF while parsing an object"
  | .endInString => "EOF while parsing a string"
  | .noValue => "expected value"
  | .noIdent => "expected ident"
  | .noColon => "expected \x60:\x60"
  | .noCommaInList => "expected \x60,\x60 or \x60]\x60"
  | .noCommaInObject => "expected \x60,\x60 or \x60\x7d\x60"
  | .trailingComma => "trailing comma"
  | .trailingCharacters => "trailing characters"
  | .keyNotString => "key must be a string"
  | .invalidNumber => "invalid number"
  | .numberOutOfRange => "number out of range"
  | .invalidEscape => "invalid escape"
  | .controlCharacter => "control character (\\u0000-\\u001F) found while parsing a string"
  | .loneSurrogate => "lone leading surrogate in hex escape"
  | .brokenSurrogate => "unexpected end of hex escape"
  | .invalidCodePoint => "invalid unicode code point"
  | .tooDeep => "recursion limit exceeded"
  | .misfit m => m.message

/-- A fault, and how many octets were still unread when it was seen. -/
structure Stop where
  fault : Fault
  unread : Nat

/-- A value and the octets after it, or the place of a fault. -/
abbrev Parsed (α : Type) := Except Stop (α × List UInt8)

/-- Stops at a fault seen before the octets `rest`. -/
def stop {α : Type} (fault : Fault) (rest : List UInt8) : Parsed α :=
  .error ⟨fault, rest.length⟩

/-- Stops at a fault seen in the first of the octets `rest`, or in there being none. -/
def stopBefore {α : Type} (fault : Fault) (rest : List UInt8) : Parsed α :=
  .error ⟨fault, rest.tail.length⟩

/-- Goes on with the value and the octets after it. -/
def Parsed.andThen {α β : Type} (p : Parsed α) (next : α → List UInt8 → Parsed β) : Parsed β :=
  match p with
  | .error e => .error e
  | .ok (x, rest) => next x rest

/-- Makes something of the value. -/
def Parsed.mapValue {α β : Type} (p : Parsed α) (f : α → β) : Parsed β :=
  p.andThen fun x rest => .ok (f x, rest)

/-- How the text is at hand. -/
inductive Supply where
  | whole
  /-- Octet by octet; an octet that was looked at counts as read. -/
  | stream
deriving DecidableEq

/-- Stops at a fault seen after looking at the first of the octets `rest`. -/
def Supply.stopLooking {α : Type} (supply : Supply) (fault : Fault) (rest : List UInt8) :
    Parsed α :=
  match supply with
  | .whole => stop fault rest
  | .stream => stopBefore fault rest

def octet (c : Char) : UInt8 := c.toNat.toUInt8

/-- Space, tab, line feed and carriage return stand between tokens. -/
def isBlank (b : UInt8) : Bool := b = 0x20 || b = 0x09 || b = 0x0A || b = 0x0D

def isDigit (b : UInt8) : Bool := octet '0' ≤ b && b ≤ octet '9'

/-- The octets from the first one that is no blank. -/
def skipBlanks (s : List UInt8) : List UInt8 := s.dropWhile isBlank

def word : List UInt8 → List UInt8 → Parsed Unit
  | [], s => .ok ((), s)
  | _ :: _, [] => stop .endInValue []
  | w :: ws, b :: s => if b = w then word ws s else stop .noIdent s

/-! ## Numbers -/

/-- Appends digits to a number while it stays below `2 ^ 64`.  Gives the number, how many digits
were taken, and how many were left off. -/
def absorb (n : Nat) : List UInt8 → Nat × Nat × Nat
  | [] => (n, 0, 0)
  | d :: ds =>
    let m := n * 10 + (d.toNat - 0x30)
    if m < UInt64.size then
      let (result, taken, left) := absorb m ds
      (result, taken + 1, left)
    else (n, 0, ds.length + 1)

/-- Divides a double by `10 ^ k`, by at most `10 ^ 308` at a time. -/
def scaleDown (x : Float) (k : Nat) : Float :=
  if k ≤ 308 then x / Float.ofScientific 1 false k
  else if x == 0.0 then x
  else scaleDown (x / Float.ofScientific 1 false 308) (k - 308)
termination_by k

/-- The double `significand * 10 ^ exponent`, unless it is too large. -/
def scale (significand : Nat) (exponent : Int) : Option Float :=
  let x := (UInt64.ofNat significand).toFloat
  if exponent < 0 then some (scaleDown x exponent.natAbs)
  else if exponent ≤ 308 then
    let y := x * Float.ofScientific 1 false exponent.toNat
    if y.isInf then none else some y
  else if significand = 0 then some 0.0
  else none

def signed (negative : Bool) (x : Float) : Number := .double (if negative then -x else x)

/-- The number `significand * 10 ^ exponent` before the octets `rest`. -/
def scaled (supply : Supply) (negative : Bool) (significand : Nat) (exponent : Int)
    (rest : List UInt8) : Parsed Number :=
  match scale significand exponent with
  | none => supply.stopLooking .numberOutOfRange rest
  | some x => .ok (signed negative x, rest)

/-- Reads the digits of an exponent after the number `e`; gives none just after the digit that makes
it exceed 31 bits. -/
def exponentDigits (e : Nat) : List UInt8 → Option Nat × List UInt8
  | [] => (some e, [])
  | b :: s =>
    if isDigit b then
      let e' := e * 10 + (b.toNat - 0x30)
      if e' < UInt32.size / 2 then exponentDigits e' s else (none, s)
    else (some e, b :: s)

def exponentPart (supply : Supply) (negative : Bool) (significand : Nat) (exponent : Int)
    (s : List UInt8) : Parsed Number :=
  let (down, s) := match s with
    | b :: rest =>
      if b = octet '+' then (false, rest) else if b = octet '-' then (true, rest) else (false, s)
    | [] => (false, [])
  match s with
  | [] => stop .endInValue []
  | b :: rest =>
    if !isDigit b then stop .invalidNumber rest
    else match exponentDigits (b.toNat - 0x30) rest with
      | (some e, rest) =>
        scaled supply negative significand (if down then exponent - e else exponent + e) rest
      | (none, rest) =>
        -- A zero stays zero, and a number that is scaled down far enough becomes zero.
        if significand ≠ 0 ∧ !down then stop .numberOutOfRange rest
        else .ok (signed negative 0.0, rest.dropWhile isDigit)

def isExponent (b : UInt8) : Bool := b = octet 'e' || b = octet 'E'

def fractionPart (supply : Supply) (negative : Bool) (significand : Nat) (exponent : Int)
    (s : List UInt8) : Parsed Number :=
  match s.takeWhile isDigit, s.dropWhile isDigit with
  | [], [] => stop .endInValue []
  | [], rest => stopBefore .invalidNumber rest
  | digits, rest =>
    let (significand, taken, _) := absorb significand digits
    let exponent := exponent - taken
    match rest with
    | b :: after =>
      if isExponent b then exponentPart supply negative significand exponent after
      else scaled supply negative significand exponent rest
    | [] => scaled supply negative significand exponent rest

/-- A number that is written without fraction and exponent. -/
def integer (negative : Bool) (n : Nat) : Number :=
  if !negative then .count n
  else if n = 0 ∨ UInt64.size / 2 < n then signed true (UInt64.ofNat n).toFloat
  else .negative n

/-- What follows the digits of an integer, of which `left` were too many for 64 bits. -/
def afterInteger (supply : Supply) (negative : Bool) (n left : Nat) (s : List UInt8) :
    Parsed Number :=
  let whole : Parsed Number :=
    if left = 0 then .ok (integer negative n, s) else scaled supply negative n left s
  match s with
  | [] => whole
  | b :: rest =>
    if b = octet '.' then fractionPart supply negative n left rest
    else if isExponent b then exponentPart supply negative n left rest
    else whole

def unsignedNumber (supply : Supply) (negative : Bool) : List UInt8 → Parsed Number
  | [] => stop .endInValue []
  | b :: rest =>
    if b = octet '0' then
      match rest with
      | d :: _ =>
        if isDigit d then stopBefore .invalidNumber rest else afterInteger supply negative 0 0 rest
      | [] => afterInteger supply negative 0 0 rest
    else if isDigit b then
      let (n, _, left) := absorb 0 (b :: rest.takeWhile isDigit)
      afterInteger supply negative n left (rest.dropWhile isDigit)
    else stop .invalidNumber rest

/-! ## Strings -/

def hexValue? (b : UInt8) : Option Nat :=
  if isDigit b then some (b.toNat - 0x30)
  else if octet 'a' ≤ b ∧ b ≤ octet 'f' then some (b.toNat - 0x57)
  else if octet 'A' ≤ b ∧ b ≤ octet 'F' then some (b.toNat - 0x37)
  else none

def hexUnit : List UInt8 → Parsed Nat
  | a :: b :: c :: d :: s =>
    match [a, b, c, d].mapM hexValue? with
    | some digits => .ok (Radix.value 16 digits, s)
    | none => stop .invalidEscape s
  | _ => stop .endInString []

/-- Reads the second half of a character beyond the first plane, after its first half `high`. -/
def lowSurrogate (high : Nat) : List UInt8 → Parsed Char
  | [] => stop .endInString []
  | b :: s =>
    if b ≠ octet '\\' then stop .brokenSurrogate s
    else match s with
      | [] => stop .endInString []
      | u :: s =>
        if u ≠ octet 'u' then stop .brokenSurrogate s
        else Parsed.andThen (hexUnit s) fun low rest =>
          if low < 0xDC00 ∨ 0xDFFF < low then stop .loneSurrogate rest
          else .ok (Char.ofNat (0x10000 + (high - 0xD800) * 0x400 + (low - 0xDC00)), rest)

def escaped : List UInt8 → Parsed Char
  | [] => stop .endInString []
  | b :: s =>
    if b = octet '"' ∨ b = octet '\\' ∨ b = octet '/' then .ok (Char.ofNat b.toNat, s)
    else if b = octet 'b' then .ok ('\x08', s)
    else if b = octet 'f' then .ok ('\x0c', s)
    else if b = octet 'n' then .ok ('\n', s)
    else if b = octet 'r' then .ok ('\r', s)
    else if b = octet 't' then .ok ('\t', s)
    else if b = octet 'u' then
      Parsed.andThen (hexUnit s) fun unit rest =>
        if 0xDC00 ≤ unit ∧ unit ≤ 0xDFFF then stop .loneSurrogate rest
        else if 0xD800 ≤ unit ∧ unit ≤ 0xDBFF then lowSurrogate unit rest
        else .ok (Char.ofNat unit, rest)
    else stop .invalidEscape s

/-- Reads a string after its opening mark, at most `fuel` characters of it, onto the characters
`before` that are already read, last one first.  An octet that does not fit into UTF-8 spoils the
string, but that is seen only at its end: `spoilt` counts the octets of the text from there on. -/
def stringFrom : (fuel : Nat) → (before : List Char) → (spoilt : Nat) → List UInt8 → Parsed String
  | 0, _, _, s => stop .endInString s
  | _ + 1, _, _, [] => stop .endInString []
  | fuel + 1, before, spoilt, b :: s =>
    if b = octet '"' then
      if spoilt = 0 then .ok (String.ofList before.reverse, s)
      else .error ⟨.invalidCodePoint, spoilt + s.length⟩
    else if b = octet '\\' then
      match escaped s with
      | .error e => .error e
      | .ok (c, rest) =>
        stringFrom fuel (c :: before) (if spoilt = 0 then 0 else spoilt + c.utf8Size) rest
    else if b < 0x20 then stop .controlCharacter s
    else if spoilt ≠ 0 then stringFrom fuel before (spoilt + 1) s
    else match Utf8.step b s with
      | (none, _) => stringFrom fuel before 1 s
      | (some c, rest) => stringFrom fuel (c :: before) 0 rest

def stringBody (s : List UInt8) : Parsed String := stringFrom (s.length + 1) [] 0 s

/-! ## Lists and objects -/

/-- Reads the items of a list up to its closing bracket, with `item` for each, onto the items
`before` that are already read, last one first.  Every item takes an octet, so `fuel` is never
short when it exceeds the number of octets. -/
def itemsFrom {α : Type} (item : List UInt8 → Parsed α) :
    (fuel : Nat) → (before : List α) → List UInt8 → Parsed (List α)
  | 0, _, s => stop .endInList s
  | fuel + 1, before, s =>
    match skipBlanks s with
    | [] => stop .endInList []
    | b :: rest =>
      if b = octet ']' then .ok (before.reverse, rest)
      else if before.isEmpty then
        match item (b :: rest) with
        | .error e => .error e
        | .ok (x, rest) => itemsFrom item fuel [x] rest
      else if b = octet ',' then
        match skipBlanks rest with
        | [] => stop .endInValue []
        | c :: rest =>
          if c = octet ']' then stop .trailingComma rest
          else match item (c :: rest) with
            | .error e => .error e
            | .ok (x, rest) => itemsFrom item fuel (x :: before) rest
      else stop .noCommaInList rest

def items {α : Type} (item : List UInt8 → Parsed α) (s : List UInt8) : Parsed (List α) :=
  itemsFrom item (s.length + 1) [] s

/-- Reads a member of an object, after the opening mark of its name. -/
def memberWith (value : List UInt8 → Parsed Json) (s : List UInt8) : Parsed (String × Json) :=
  Parsed.andThen (stringBody s) fun name rest =>
    match skipBlanks rest with
    | [] => stop .endInObject []
    | b :: rest =>
      if b ≠ octet ':' then stop .noColon rest
      else Parsed.mapValue (value rest) fun v => (name, v)

/-- Reads the members of an object up to its closing brace, onto the members `before` that are
already read, last one first. -/
def membersFrom (value : List UInt8 → Parsed Json) :
    (fuel : Nat) → (before : List (String × Json)) → List UInt8 → Parsed (List (String × Json))
  | 0, _, s => stop .endInObject s
  | fuel + 1, before, s =>
    match skipBlanks s with
    | [] => stop .endInObject []
    | b :: rest =>
      if b = octet '}' then .ok (before.reverse, rest)
      else if before.isEmpty then
        if b ≠ octet '"' then stop .keyNotString rest
        else match memberWith value rest with
          | .error e => .error e
          | .ok (m, rest) => membersFrom value fuel [m] rest
      else if b = octet ',' then
        match skipBlanks rest with
        | [] => stop .endInValue []
        | c :: rest =>
          if c = octet '}' then stop .trailingComma rest
          else if c ≠ octet '"' then stop .keyNotString rest
          else match memberWith value rest with
            | .error e => .error e
            | .ok (m, rest) => membersFrom value fuel (m :: before) rest
      else stop .noCommaInObject rest

/-! ## Values -/

/-- Reads a value that is no list and no object, or what `list` and `record` make of those after
their opening bracket. -/
def valueWith (supply : Supply) (list record : List UInt8 → Parsed Json) (s : List UInt8) :
    Parsed Json :=
  match skipBlanks s with
  | [] => stop .endInValue []
  | b :: rest =>
    if b = octet 'n' then
      Parsed.mapValue (word [octet 'u', octet 'l', octet 'l'] rest) fun _ => null
    else if b = octet 't' then
      Parsed.mapValue (word [octet 'r', octet 'u', octet 'e'] rest) fun _ => bool true
    else if b = octet 'f' then
      Parsed.mapValue (word [octet 'a', octet 'l', octet 's', octet 'e'] rest) fun _ => bool false
    else if b = octet '-' then Parsed.mapValue (unsignedNumber supply true rest) number
    else if isDigit b then Parsed.mapValue (unsignedNumber supply false (b :: rest)) number
    else if b = octet '"' then Parsed.mapValue (stringBody rest) string
    else if b = octet '[' then list rest
    else if b = octet '{' then record rest
    else stop .noValue rest

/-- Reads a value with lists and objects nested at most `depth` deep. -/
def valueWithin (supply : Supply) : (depth : Nat) → List UInt8 → Parsed Json
  | 0 => valueWith supply (stop .tooDeep) (stop .tooDeep)
  | depth + 1 =>
    valueWith supply
      (fun s => Parsed.mapValue (items (valueWithin supply depth) s) array)
      (fun s =>
        Parsed.mapValue (membersFrom (valueWithin supply depth) (s.length + 1) [] s) ofMembers)

/-! ## Whole texts -/

/-- A place in a text: its line, from 1, and how many octets of that line come before it. -/
structure Position where
  line : Nat
  column : Nat
deriving DecidableEq, Repr

/-- The place after the first `n` octets of a text. -/
def Position.after (text : List UInt8) (n : Nat) : Position :=
  (text.take n).foldl
    (fun p b => if b = 0x0A then ⟨p.line + 1, 0⟩ else ⟨p.line, p.column + 1⟩) ⟨1, 0⟩

structure Error where
  fault : Fault
  position : Position

def Error.message (e : Error) : String :=
  e.fault.message ++ " at line " ++ Decimal.text e.position.line ++ " column " ++
    Decimal.text e.position.column

/-- Reads a text that consists of what `parse` reads and blanks after it. -/
def readWhole {α : Type} (parse : List UInt8 → Parsed α) (text : List UInt8) : Except Error α :=
  let result := Parsed.andThen (parse text) fun x rest =>
    match skipBlanks rest with
    | [] => .ok (x, [])
    | _ :: rest => stop .trailingCharacters rest
  match result with
  | .ok (x, _) => .ok x
  | .error e => .error ⟨e.fault, Position.after text (text.length - e.unread)⟩

/-- Lists and objects may be nested this deep. -/
def depthLimit : Nat := 127

def read (text : List UInt8) : Except Error Json := readWhole (valueWithin .whole depthLimit) text

end ClusterProbe.Json
