/-!
# Base64 text

Three octets are written as four symbols of six bits each; the last group is filled up with `=`.
-/

namespace ClusterProbe.Base64

def alphabet : List Char :=
  ['A', 'B', 'C', 'D', 'E', 'F', 'G', 'H', 'I', 'J', 'K', 'L', 'M', 'N', 'O', 'P', 'Q', 'R', 'S',
   'T', 'U', 'V', 'W', 'X', 'Y', 'Z',
   'a', 'b', 'c', 'd', 'e', 'f', 'g', 'h', 'i', 'j', 'k', 'l', 'm', 'n', 'o', 'p', 'q', 'r', 's',
   't', 'u', 'v', 'w', 'x', 'y', 'z',
   '0', '1', '2', '3', '4', '5', '6', '7', '8', '9', '+', '/']

def symbol (n : Nat) : Char := alphabet.getD n '='

/-- Writes octets onto the symbols `before` that are already written, last one first. -/
def symbols (before : List Char) : List UInt8 → List Char
  | [] => before
  | [a] =>
    '=' :: '=' :: symbol (a.toNat % 4 * 16) :: symbol (a.toNat / 4) :: before
  | [a, b] =>
    '=' :: symbol (b.toNat % 16 * 4) :: symbol (a.toNat % 4 * 16 + b.toNat / 16) ::
      symbol (a.toNat / 4) :: before
  | a :: b :: c :: rest =>
    symbols
      (symbol (c.toNat % 64) :: symbol (b.toNat % 16 * 4 + c.toNat / 64) ::
        symbol (a.toNat % 4 * 16 + b.toNat / 16) :: symbol (a.toNat / 4) :: before)
      rest

def encode (octets : List UInt8) : String := String.ofList (symbols [] octets).reverse

end ClusterProbe.Base64
