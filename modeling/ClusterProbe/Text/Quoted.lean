import ClusterProbe.Radix
import ClusterProbe.Text.Plain

/-!
# Quoted text

A text between quotation marks, on one line and with every character recognisable: the marks, the
backslash and the usual control characters have short escapes, and any other character that is not
visible on its own is shown by its code point, as in `\u{301}`.
-/

namespace ClusterProbe.Text

/-- The lower-case hexadecimal digit of a number below sixteen. -/
def hexDigit (d : Nat) : Char :=
  ['0', '1', '2', '3', '4', '5', '6', '7', '8', '9', 'a', 'b', 'c', 'd', 'e', 'f'].getD d '0'

/-- A number in lower-case hexadecimal without leading zeros. -/
def hex (n : Nat) : List Char :=
  if n = 0 then ['0'] else (Radix.digits 16 n).map hexDigit

/-- A character as it stands between two marks. -/
def escape (mark c : Char) : List Char :=
  if c = '\x00' then ['\\', '0']
  else if c = '\t' then ['\\', 't']
  else if c = '\r' then ['\\', 'r']
  else if c = '\n' then ['\\', 'n']
  else if c = mark ∨ c = '\\' then ['\\', c]
  else if isPlain c then [c]
  else ['\\', 'u', '\x7b'] ++ hex c.toNat ++ ['\x7d']

def quoted (text : String) : String :=
  String.ofList ('"' :: text.toList.flatMap (escape '"') ++ ['"'])

def quotedChar (c : Char) : String :=
  String.ofList ('\'' :: escape '\'' c ++ ['\''])

end ClusterProbe.Text
