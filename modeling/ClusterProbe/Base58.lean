import ClusterProbe.Octets
import ClusterProbe.Radix

/-!
# Base58 text

Octets are written as one big-endian number in base 58, over an alphabet without `0`, `O`, `I` and
`l`.  A number loses its leading zeros, so each leading zero octet is written as a leading `1`, and
every octet string has exactly one text.

Keys, hashes and signatures are read through `Base58.octets`, which looks at the length of the text
before its characters: a text longer than any text of `n` octets is not decoded at all.
-/

namespace ClusterProbe

namespace Base58

def alphabet : List Char :=
  ['1', '2', '3', '4', '5', '6', '7', '8', '9',
   'A', 'B', 'C', 'D', 'E', 'F', 'G', 'H', 'J', 'K', 'L', 'M', 'N', 'P', 'Q', 'R', 'S', 'T', 'U',
   'V', 'W', 'X', 'Y', 'Z',
   'a', 'b', 'c', 'd', 'e', 'f', 'g', 'h', 'i', 'j', 'k', 'm', 'n', 'o', 'p', 'q', 'r', 's', 't',
   'u', 'v', 'w', 'x', 'y', 'z']

def symbol (digit : Nat) : Char := alphabet.getD digit '1'

def digit? (c : Char) : Option Nat := alphabet.idxOf? c

def encode (octets : List UInt8) : String :=
  let zeros := octets.takeWhile (· == 0)
  let number := Radix.value 256 (octets.map UInt8.toNat)
  String.ofList (List.replicate zeros.length '1' ++ (Radix.digits 58 number).map symbol)

/-- The octet string of a text, unless a character is outside the alphabet. -/
def decode (text : String) : Option (List UInt8) := do
  let digits ← text.toList.mapM digit?
  let zeros := digits.takeWhile (· == 0)
  let octets := (Radix.digits 256 (Radix.value 58 digits)).map UInt8.ofNat
  return List.replicate zeros.length 0 ++ octets

/-- Why a text is not the text of so many octets. -/
inductive Fault where
  /-- It is too long to be one, or decodes to another number of octets. -/
  | wrongSize
  | invalid
deriving DecidableEq, Repr

/-- Reads a text of exactly `n` octets, refusing at once one of more than `limit` octets. -/
def octets (n limit : Nat) (text : String) : Except Fault (Octets n) :=
  if text.utf8ByteSize > limit then .error .wrongSize
  else match decode text with
    | none => .error .invalid
    | some bytes =>
      match Octets.ofList? n bytes with
      | none => .error .wrongSize
      | some a => .ok a

/-- Distinct symbols for distinct digits: reading a digit's symbol gives the digit. -/
theorem digit?_symbol {d : Nat} (h : d < 58) : digit? (symbol d) = some d := by
  revert d
  decide

end Base58

def Octets.toBase58 {n : Nat} (a : Octets n) : String := Base58.encode a.toList

/-- Reads a public key; its longest text has 44 characters. -/
def PublicKey.ofBase58 (text : String) : Except Base58.Fault PublicKey := Base58.octets 32 44 text

/-- Reads a block hash; its longest text has 44 characters. -/
def BlockHash.ofBase58 (text : String) : Except Base58.Fault BlockHash := Base58.octets 32 44 text

/-- Reads a signature; its longest text has 88 characters. -/
def Signature.ofBase58 (text : String) : Except Base58.Fault Signature := Base58.octets 64 88 text

end ClusterProbe
