import ClusterProbe.Radix
import ClusterProbe.Text.Quoted

/-!
# Version numbers

Three numbers with points between them, then perhaps the identifiers of a pre-release after a dash
and those of a build after a plus.  A pre-release comes before the release that it leads to.
-/

namespace ClusterProbe

structure Semver where
  major : Nat
  minor : Nat
  patch : Nat
  /-- The identifiers of a pre-release; empty for a release. -/
  preRelease : String
  build : String
deriving DecidableEq, Repr

namespace Semver

inductive Part where
  | major
  | minor
  | patch
  | preRelease
  | build
deriving DecidableEq, Repr

def Part.name : Part → String
  | .major => "major version number"
  | .minor => "minor version number"
  | .patch => "patch version number"
  | .preRelease => "pre-release identifier"
  | .build => "build metadata"

inductive Fault where
  | empty
  | unexpectedEnd (part : Part)
  | unexpectedChar (c : Char) (part : Part)
  | unexpectedCharAfter (c : Char) (part : Part)
  | leadingZero (part : Part)
  | tooLarge (part : Part)
  | emptySegment (part : Part)
deriving DecidableEq, Repr

def Fault.message : Fault → String
  | .empty => "empty string, expected a semver version"
  | .unexpectedEnd part => "unexpected end of input while parsing " ++ part.name
  | .unexpectedChar c part =>
    "unexpected character " ++ Text.quotedChar c ++ " while parsing " ++ part.name
  | .unexpectedCharAfter c part =>
    "unexpected character " ++ Text.quotedChar c ++ " after " ++ part.name
  | .leadingZero part => "invalid leading zero in " ++ part.name
  | .tooLarge part => "value of " ++ part.name ++ " exceeds u64::MAX"
  | .emptySegment part => "empty identifier segment in " ++ part.name

/-- Appends digits to the number `n`, which has some already.  Of a zero with digits after it and a
number beyond 64 bits, the fault further left is reported. -/
def appendDigits (part : Part) (n : Nat) : List Char → Except Fault Nat
  | [] => .ok n
  | c :: cs =>
    if n = 0 then .error (.leadingZero part)
    else
      let m := n * 10 + (c.toNat - '0'.toNat)
      if m < UInt64.size then appendDigits part m cs else .error (.tooLarge part)

/-- Reads the number of a part, and gives the characters after it. -/
def number (part : Part) (text : List Char) : Except Fault (Nat × List Char) :=
  match text.takeWhile Char.isDigit, text.dropWhile Char.isDigit with
  | [], [] => .error (.unexpectedEnd part)
  | [], c :: _ => .error (.unexpectedChar c part)
  | d :: digits, rest => do
    let n ← appendDigits part (d.toNat - '0'.toNat) digits
    return (n, rest)

def point (part : Part) : List Char → Except Fault (List Char)
  | '.' :: rest => .ok rest
  | c :: _ => .error (.unexpectedCharAfter c part)
  | [] => .error (.unexpectedEnd part)

def isIdentifierChar (c : Char) : Bool := c.isAlphanum || c = '-'

/-- Checks one identifier: a number in a pre-release has no leading zero. -/
def checkSegment (part : Part) (segment : List Char) : Except Fault Unit :=
  if segment.isEmpty then .error (.emptySegment part)
  else if part = .preRelease ∧ segment.all Char.isDigit ∧ 1 < segment.length ∧
      segment.head? = some '0' then
    .error (.leadingZero part)
  else .ok ()

/-- Reads identifiers with points between them, and gives the characters after them. -/
def identifiers (part : Part) (text : List Char) : Except Fault (String × List Char) := do
  let isPart (c : Char) : Bool := isIdentifierChar c || c = '.'
  let segments := (text.takeWhile isPart).splitOn '.'
  segments.forM (checkSegment part)
  return (String.ofList (text.takeWhile isPart), text.dropWhile isPart)

/-- Reads identifiers after the mark that announces them, if it is there. -/
def announced (mark : Char) (part : Part) (text : List Char) :
    Except Fault (String × List Char) :=
  match text with
  | c :: rest => if c = mark then identifiers part rest else .ok ("", text)
  | [] => .ok ("", [])

def read (text : String) : Except Fault Semver := do
  if text.isEmpty then throw .empty
  let (major, rest) ← number .major text.toList
  let rest ← point .major rest
  let (minor, rest) ← number .minor rest
  let rest ← point .minor rest
  let (patch, rest) ← number .patch rest
  let (preRelease, afterPre) ← announced '-' .preRelease rest
  let (build, left) ← announced '+' .build afterPre
  match left with
  | [] => return ⟨major, minor, patch, preRelease, build⟩
  | c :: _ =>
    let part := if !build.isEmpty then Part.build else if !preRelease.isEmpty then .preRelease
      else .patch
    throw (.unexpectedCharAfter c part)

/-- The version comes before the release with the given numbers. -/
def before (v : Semver) (major minor patch : Nat) : Bool :=
  if v.major ≠ major then v.major < major
  else if v.minor ≠ minor then v.minor < minor
  else if v.patch ≠ patch then v.patch < patch
  else !v.preRelease.isEmpty

end Semver

end ClusterProbe
