import ClusterProbe.Url.Reader

/-!
# Endpoints

The URL of a node, to which requests are sent over HTTP.  A name and a password in it go along with
the requests, and are no part of the URL that is shown.
-/

namespace ClusterProbe

namespace Url

/-- The name and the password that are sent along.  Without a name that can be read, and if neither
is anything, they stay in the URL. -/
def Login.isSent (login : Login) : Bool :=
  match unescaped? login.name with
  | none => false
  | some name => !name.isEmpty || (!login.password.isEmpty && (unescaped? login.password).isSome)

/-- The URL without the name and the password that are sent along. -/
def shown (u : Url) : Url :=
  { u with authority := u.authority.map fun a =>
      { a with login := a.login.filter (!·.isSent) } }

end Url

namespace Rpc

structure Endpoint where
  text : String
  host : String
  port : Nat
deriving DecidableEq, Repr

namespace Endpoint

/-- Why a text is not the URL of a node. -/
inductive Fault where
  | malformed (fault : Url.Fault)
  /-- The scheme is none that requests can be sent over. -/
  | badScheme (url : String)
  /-- A request cannot name what the URL names. -/
  | badTarget (url : String)
deriving DecidableEq, Repr

def Fault.message : Fault → String
  | .malformed fault => fault.message
  | .badScheme _ => "URL scheme is not allowed"
  | .badTarget _ => "Parsed Url is not a valid Uri"

/-- The URL that a fault is about, if there is one. -/
def Fault.url? : Fault → Option String
  | .malformed _ => none
  | .badScheme url => some url
  | .badTarget url => some url

/-- A character that a domain can have, but no host in a request. -/
def isUnfit (c : Char) : Bool := ['"', '\x60', '\x7b', '\x7d'].contains c

def read (text : String) : Except Fault Endpoint := do
  let url := (← (Url.read text).mapError .malformed).shown
  let shown := url.text
  match url.authority, Url.ownPort? url.scheme with
  | some authority, some port =>
    let host := authority.host.text
    if url.scheme ≠ "http" ∧ url.scheme ≠ "https" then throw (.badScheme shown)
    if host.toList.any isUnfit ∨ UInt16.size - 2 < shown.length then throw (.badTarget shown)
    return ⟨shown, host, authority.port.getD port⟩
  | _, _ => throw (.badScheme shown)

/-- The host and the port that a connection goes to. -/
def address (e : Endpoint) : String × Nat := (e.host, e.port)

end Endpoint

end Rpc

end ClusterProbe
