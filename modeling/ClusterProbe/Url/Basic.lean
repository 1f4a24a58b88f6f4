import ClusterProbe.Url.Host

/-!
# URLs

The parts of a URL in normal form, and how it is shown.
-/

namespace ClusterProbe

namespace Url

/-- Who asks, as it is written before a host, with percent signs. -/
structure Login where
  name : String
  /-- Empty if there is none. -/
  password : String
deriving DecidableEq, Repr

structure Authority where
  login : Option Login
  host : Host
  /-- The port, unless it is the scheme's own. -/
  port : Option Nat
deriving DecidableEq, Repr

end Url

structure Url where
  scheme : String
  authority : Option Url.Authority
  path : String
  query : Option String
  fragment : Option String
deriving DecidableEq, Repr

namespace Url

/-- The port that a scheme has of its own. -/
def ownPort? (scheme : String) : Option Nat :=
  if scheme = "http" ∨ scheme = "ws" then some 80
  else if scheme = "https" ∨ scheme = "wss" then some 443
  else if scheme = "ftp" then some 21
  else none

/-- Whether it is known what a scheme's URLs look like. -/
def isKnown (scheme : String) : Bool := (ownPort? scheme).isSome || scheme = "file"

def Login.text (login : Login) : String :=
  login.name ++ (if login.password.isEmpty then "" else ":" ++ login.password) ++ "@"

def Authority.text (a : Authority) : String :=
  let login := match a.login with
    | none => ""
    | some login => login.text
  let port := match a.port with
    | none => ""
    | some n => ":" ++ Decimal.text n
  login ++ a.host.text ++ port

/-- A part of a URL after its mark, if there is one. -/
def marked (mark : String) : Option String → String
  | none => ""
  | some text => mark ++ text

/-- The URL as it is shown.  Before a path with two slashes in front there is a point if there is no
authority, as it would look like one otherwise. -/
def text (u : Url) : String :=
  let before := match u.authority with
    | some a => "//" ++ a.text
    | none => if u.path.startsWith "//" then "/." else ""
  u.scheme ++ ":" ++ before ++ u.path ++ marked "?" u.query ++ marked "#" u.fragment

end Url

end ClusterProbe
