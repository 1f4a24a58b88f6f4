import ClusterProbe.Url.Basic
import ClusterProbe.Url.Path

/-!
# Reading URLs

A URL is a scheme, and after a colon what the scheme makes of it: a host and a path under a scheme
that is known, a path to a file, a host and a path or only a path under other schemes, or any text.
A query and a fragment may follow.
-/

namespace ClusterProbe.Url

inductive Fault where
  | relative
  /-- There is no host where one has to be, or none that can be. -/
  | badHost (fault : Host.Fault)
  /-- The port is no number below `2 ^ 16`. -/
  | badPort
deriving DecidableEq, Repr

def Fault.message : Fault → String
  | .relative => "relative URL without a base"
  | .badHost fault => fault.message
  | .badPort => "invalid port number"

/-! ## Parts -/

/-- The scheme of a URL, in lower case, and the characters after its colon. -/
def splitScheme (text : List Char) : Option (String × List Char) :=
  let isSchemeChar (c : Char) : Bool := c.isAlphanum || c = '+' || c = '-' || c = '.'
  match text.takeWhile isSchemeChar, text.dropWhile isSchemeChar with
  | c :: scheme, ':' :: rest =>
    if c.isAlpha then some (String.ofList ((c :: scheme).map Char.toLower), rest) else none
  | _, _ => none

/-- What comes before the first of some characters, and what comes after it. -/
def splitAt? (isMark : Char → Bool) (text : List Char) : List Char × Option (List Char) :=
  match text.dropWhile (!isMark ·) with
  | [] => (text, none)
  | _ :: rest => (text.takeWhile (!isMark ·), some rest)

/-- What comes before the last of some character, if there is one, and what comes after it. -/
def splitAtLast? (mark : Char) (text : List Char) : Option (List Char) × List Char :=
  let (after, before) := splitAt? (· = mark) text.reverse
  (before.map List.reverse, after.reverse)

/-- The name and the password before a host, if either has a character. -/
def readLogin (text : List Char) : Option Login :=
  let (name, password) := splitAt? (· = ':') text
  let password := password.getD []
  if name.isEmpty ∧ password.isEmpty then none
  else some ⟨escaped notInLogin name, escaped notInLogin password⟩

/-- The host that a text begins with, up to a colon outside of brackets, and what follows the
colon. -/
def splitHost (inBrackets : Bool) : List Char → List Char × Option (List Char)
  | [] => ([], none)
  | c :: rest =>
    if c = ':' ∧ !inBrackets then ([], some rest)
    else
      let inside := if c = '[' then true else if c = ']' then false else inBrackets
      let (host, port) := splitHost inside rest
      (c :: host, port)

/-- The port that is written in digits; none written means the scheme's own. -/
def readPort (scheme : String) (digits : List Char) : Except Fault (Option Nat) :=
  if digits.all Char.isDigit then
    let n := Radix.value 10 (digits.map fun c => c.toNat - '0'.toNat)
    if UInt16.size ≤ n then .error .badPort
    else if digits.isEmpty ∨ ownPort? scheme = some n then .ok none
    else .ok (some n)
  else .error .badPort

/-- Reads an authority.  After the port there may be a backslash, which begins the path; it is given
with what follows it. -/
def readAuthority (scheme : String) (text : List Char) : Except Fault (Authority × List Char) := do
  let (login, rest) := splitAtLast? '@' text
  let login := login.bind readLogin
  let (host, port) := splitHost false rest
  if host.isEmpty ∧ (isKnown scheme ∨ port.isSome ∨ login.isSome) then throw (.badHost .empty)
  let host ← (Host.read (isKnown scheme) host).mapError .badHost
  let port := port.getD []
  let number ← readPort scheme (port.takeWhile (· ≠ '\\'))
  return (⟨login, host, number⟩, port.dropWhile (· ≠ '\\'))

/-! ## Kinds of URLs -/

def isSlash (c : Char) : Bool := c = '/' || c = '\\'

/-- What follows the scheme of a URL: an authority, if there is one, and a path. -/
abbrev Place := Option Authority × String

/-- Reads a URL of a known scheme that has a host. -/
def readKnown (scheme : String) (text : List Char) : Except Fault Place := do
  let text := text.dropWhile isSlash
  let (authority, _) ← readAuthority scheme (text.takeWhile (!isSlash ·))
  let path := (text.dropWhile (!isSlash ·)).drop 1
  return (some authority, Path.text (Path.resolve false [] (Path.parts true path)))

/-- Reads the host of a file.  A file on the same machine has none. -/
def readFileHost (text : List Char) : Except Fault Host := do
  if text.isEmpty then return .name ""
  let host ← (Host.read true text).mapError .badHost
  return if host = .name "localhost" then .name "" else host

/-- The place of a file.  A path that begins with the letter of a drive is on the same machine.
Slashes in front count as one. -/
def filePlace (host : Host) (path : List Char) : Place :=
  let parts := Path.resolve true [] (Path.parts true path)
  let host := if parts.head?.any Path.isDrive then .name "" else host
  let parts := match parts.dropWhile List.isEmpty with
    | [] => [[]]
    | parts => parts
  (some ⟨none, host, none⟩, Path.text parts)

def readFile (text : List Char) : Except Fault Place := do
  match text with
  | a :: b :: rest =>
    if isSlash a ∧ isSlash b then
      let host := rest.takeWhile (!isSlash ·)
      if Path.isDrive host then return filePlace (.name "") rest
      else return filePlace (← readFileHost host) ((rest.dropWhile (!isSlash ·)).drop 1)
    else return filePlace (.name "") (if isSlash a then b :: rest else a :: b :: rest)
  | [a] => return filePlace (.name "") (if isSlash a then [] else [a])
  | [] => return filePlace (.name "") []

/-- Reads a path under a scheme that is not known; without a path there is nothing to read. -/
def readPath : List Char → String
  | [] => ""
  | '/' :: rest => Path.text (Path.resolve false [] (Path.parts false rest))
  | text => Path.text (Path.resolve false [] (Path.parts false text))

/-- Reads a URL of a scheme that is not known; `isWhole` if neither a query nor a fragment
follows. -/
def readOther (scheme : String) (isWhole : Bool) (text : List Char) : Except Fault Place := do
  match text with
  | '/' :: '/' :: rest =>
    let path := rest.dropWhile (· ≠ '/')
    let authority := rest.takeWhile (· ≠ '/')
    if authority = ['@'] ∧ !(path.isEmpty ∧ isWhole) then throw (.badHost .empty)
    let (authority, more) ← readAuthority scheme authority
    return (some authority, readPath (more ++ path))
  | '/' :: _ => return (none, readPath text)
  | _ => return (none, escaped [] text)

/-! ## URLs -/

/-- Reads a URL, less the blanks around it, and less the tabs and line breaks in it. -/
def read (text : String) : Except Fault Url := do
  let isOuter (c : Char) : Bool := c.toNat ≤ 0x20
  let trimmed := ((text.toList.dropWhile isOuter).reverse.dropWhile isOuter).reverse
  let chars := trimmed.filter fun c => c ≠ '\t' ∧ c ≠ '\n' ∧ c ≠ '\r'
  match splitScheme chars with
  | none => throw .relative
  | some (scheme, rest) =>
    let (rest, fragment) := splitAt? (· = '#') rest
    let (rest, query) := splitAt? (· = '?') rest
    let (authority, path) ←
      if scheme = "file" then readFile rest
      else if isKnown scheme then readKnown scheme rest
      else readOther scheme (query.isNone && fragment.isNone) rest
    let notInQuery := if isKnown scheme then '\'' :: notInQuery else notInQuery
    return ⟨scheme, authority, path, query.map (escaped notInQuery),
      fragment.map (escaped notInFragment)⟩

end ClusterProbe.Url
