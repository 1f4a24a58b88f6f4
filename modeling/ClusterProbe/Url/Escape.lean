import ClusterProbe.Text.Utf8

/-!
# Percent signs

A URL is written in ASCII.  An octet that it cannot hold, or not where it stands, is written as a
percent sign and two hexadecimal digits.
-/

namespace ClusterProbe.Url

def hexDigit (d : Nat) : Char :=
  ['0', '1', '2', '3', '4', '5', '6', '7', '8', '9', 'A', 'B', 'C', 'D', 'E', 'F'].getD d '0'

/-- A character, with percent signs if it is not visible ASCII or one of those given. -/
def escape (others : List Char) (c : Char) : List Char :=
  if 0x20 ≤ c.toNat ∧ c.toNat < 0x7F ∧ !others.contains c then [c]
  else (Utf8.encode (String.singleton c)).flatMap fun b =>
    ['%', hexDigit (b.toNat / 16), hexDigit (b.toNat % 16)]

/-- A text with percent signs, for places that cannot hold some characters. -/
def escaped (others text : List Char) : String := String.ofList (text.flatMap (escape others))

/-! ## Where characters cannot be -/

def notInFragment : List Char := [' ', '"', '<', '>', '\x60']

def notInPath : List Char := notInFragment ++ ['#', '?', '\x7b', '\x7d']

def notInLogin : List Char := notInPath ++ ['/', ':', ';', '=', '@', '[', '\\', ']', '^', '|']

def notInQuery : List Char := [' ', '"', '#', '<', '>']

/-! ## Reading -/

def hexValue? (b : UInt8) : Option UInt8 :=
  if 0x30 ≤ b ∧ b ≤ 0x39 then some (b - 0x30)
  else if 0x41 ≤ b ∧ b ≤ 0x46 then some (b - 0x41 + 10)
  else if 0x61 ≤ b ∧ b ≤ 0x66 then some (b - 0x61 + 10)
  else none

/-- The octets that a text with percent signs stands for.  A percent sign without two digits after
it is itself. -/
def unescape : List UInt8 → List UInt8
  | 0x25 :: a :: b :: rest =>
    match hexValue? a, hexValue? b with
    | some x, some y => (x * 16 + y) :: unescape rest
    | _, _ => 0x25 :: unescape (a :: b :: rest)
  | b :: rest => b :: unescape rest
  | [] => []

/-- The text that a text with percent signs stands for, unless that is no UTF-8. -/
def unescaped? (text : String) : Option String := Utf8.decode? (unescape (Utf8.encode text))

end ClusterProbe.Url
