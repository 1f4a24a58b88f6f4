import ClusterProbe.Text.Decimal
import ClusterProbe.Text.Quoted

/-!
# Addresses

Machines have addresses of 32 or of 128 bits.  An address of 32 bits can be written in several ways,
and is shown as four decimal numbers.  An address of 128 bits is written as eight groups of four
hexadecimal digits, where two colons can stand for groups that are zero, and is shown as short as
possible.
-/

namespace ClusterProbe.Url

/-! ## 32 bits -/

/-- The value of a digit in a base up to sixteen. -/
def digit? (base : Nat) (c : Char) : Option Nat :=
  let n :=
    if c.isDigit then c.toNat - '0'.toNat
    else if 'a' ≤ c ∧ c ≤ 'f' then c.toNat - 'a'.toNat + 10
    else base
  if n < base then some n else none

namespace Address

/-- The number in a part of an address: hexadecimal after `0x`, octal after another zero, decimal
otherwise. -/
def number? (part : List Char) : Option Nat :=
  let read (base : Nat) (digits : List Char) : Option Nat :=
    (digits.mapM (digit? base)).map (Radix.value base)
  match part with
  | [] => none
  | '0' :: 'x' :: digits => read 16 digits
  | ['0'] => some 0
  | '0' :: digits => read 8 digits
  | digits => read 10 digits

/-- The parts of a host between its points, less an empty one at the end. -/
def parts (host : List Char) : List (List Char) :=
  match (host.splitOn '.').reverse with
  | [] :: a :: rest => (a :: rest).reverse
  | reversed => reversed.reverse

/-- The last part of a host is a number, so that the host is meant as an address. -/
def isMeant (host : List Char) : Bool :=
  match (parts host).getLast? with
  | none => false
  | some part =>
    (!part.isEmpty && part.all Char.isDigit) ||
      (part.take 2 = ['0', 'x'] && (number? part).isSome)

/-- The address that numbers stand for: all but the last are its first octets, and the last one is
the rest of it. -/
def ofNumbers? : (room : Nat) → List Nat → Option Nat
  | _, [] => none
  | room, [n] => if n < Nat.pow 256 room then some n else none
  | room, n :: rest =>
    if n < 256 ∧ 1 < room then (ofNumbers? (room - 1) rest).map (n * Nat.pow 256 (room - 1) + ·)
    else none

def read? (host : List Char) : Option Nat := ((parts host).mapM number?).bind (ofNumbers? 4)

def text (n : Nat) : String :=
  String.intercalate "."
    ([n / Nat.pow 256 3, n / Nat.pow 256 2 % 256, n / 256 % 256, n % 256].map Decimal.text)

end Address

/-! ## 128 bits -/

namespace LongAddress

def group? (digits : List Char) : Option Nat :=
  if digits.isEmpty ∨ 4 < digits.length then none
  else (digits.mapM fun c => digit? 16 c.toLower).map (Radix.value 16)

/-- A decimal number below 256 without a leading zero. -/
def octet? (digits : List Char) : Option Nat :=
  if digits.isEmpty ∨ 3 < digits.length ∨ (digits.head? = some '0' ∧ digits ≠ ['0']) then none
  else
    match (digits.mapM (digit? 10)).map (Radix.value 10) with
    | some n => if n < 256 then some n else none
    | none => none

/-- The last two groups, written as an address of 32 bits. -/
def shortTail? (text : List Char) : Option (List Nat) :=
  match (text.splitOn '.').mapM octet? with
  | some [a, b, c, d] => some [a * 256 + b, c * 256 + d]
  | _ => none

/-- Groups between colons.  Where they end the address, the last two may be an address of 32
bits. -/
def groups? (endsAddress : Bool) (text : List Char) : Option (List Nat) :=
  let written := text.splitOn ':'
  match written.getLast? with
  | some last =>
    if endsAddress ∧ last.contains '.' then do
      return (← written.dropLast.mapM group?) ++ (← shortTail? last)
    else written.mapM group?
  | none => none

/-- The texts before and after the first two colons in a row. -/
def cut? : List Char → Option (List Char × List Char)
  | ':' :: ':' :: rest => some ([], rest)
  | c :: rest => (cut? rest).map fun (before, after) => (c :: before, after)
  | [] => none

/-- Groups, or no text for no groups. -/
def someGroups? (endsAddress : Bool) (text : List Char) : Option (List Nat) :=
  if text.isEmpty then some [] else groups? endsAddress text

def read? (text : List Char) : Option (List Nat) :=
  match cut? text with
  | none => do
    let groups ← groups? true text
    if groups.length = 8 then some groups else none
  | some (before, after) => do
    let first ← someGroups? false before
    let last ← someGroups? true after
    let written := first.length + last.length
    if written < 8 then some (first ++ List.replicate (8 - written) 0 ++ last) else none

/-- The length of the run of zeros that groups begin with. -/
def zeros (groups : List Nat) : Nat := (groups.takeWhile (· = 0)).length

/-- Where the longest run of zeros begins, the first of them if there are several, and its length;
zero if there is none of two or more. -/
def gap (groups : List Nat) : Nat × Nat :=
  (List.range groups.length).foldl
    (fun (start, length) i =>
      let n := zeros (groups.drop i)
      if length < n ∧ 2 ≤ n then (i, n) else (start, length))
    (0, 0)

def joined (groups : List Nat) : String :=
  String.intercalate ":" (groups.map fun n => String.ofList (Text.hex n))

def text (groups : List Nat) : String :=
  match gap groups with
  | (_, 0) => joined groups
  | (start, length) => joined (groups.take start) ++ "::" ++ joined (groups.drop (start + length))

end LongAddress

end ClusterProbe.Url
