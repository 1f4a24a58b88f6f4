import ClusterProbe.Domain.Name
import ClusterProbe.Url.Address
import ClusterProbe.Url.Escape

/-!
# Hosts

What a URL names as the machine to connect to: a domain or an address.  Under a scheme that is not
known any name will do.
-/

namespace ClusterProbe.Url

inductive Host where
  /-- A name; an empty one names no machine. -/
  | name (text : String)
  | short (address : Nat)
  /-- An address of 128 bits, as eight groups of sixteen. -/
  | long (groups : List Nat)
deriving DecidableEq, Repr

namespace Host

inductive Fault where
  | empty
  | badDomain
  /-- It holds a character that no name can have. -/
  | badCharacter
  /-- It ends in a number and is no address of 32 bits. -/
  | badAddress
  /-- It begins with a bracket and is no address of 128 bits. -/
  | badLongAddress
deriving DecidableEq, Repr

def Fault.message : Fault → String
  | .empty => "empty host"
  | .badDomain => "invalid international domain name"
  | .badCharacter => "invalid domain character"
  | .badAddress => "invalid IPv4 address"
  | .badLongAddress => "invalid IPv6 address"

def text : Host → String
  | .name text => text
  | .short address => Address.text address
  | .long groups => "[" ++ LongAddress.text groups ++ "]"

/-- Reads an address in brackets, after the first one. -/
def readLong (text : List Char) : Except Fault Host :=
  match text.getLast?, LongAddress.read? text.dropLast with
  | some ']', some groups => .ok (.long groups)
  | _, _ => .error .badLongAddress

/-- Reads a domain or an address of 32 bits. -/
def readDomain (text : List Char) : Except Fault Host :=
  match (unescaped? (String.ofList text)).bind fun plain => Domain.ascii? plain.toList with
  | none => .error .badDomain
  | some [] => .error .empty
  | some domain =>
    if Address.isMeant domain then
      match Address.read? domain with
      | some n => .ok (.short n)
      | none => .error .badAddress
    else .ok (.name (String.ofList domain))

/-- Characters that no name can have, whatever the scheme. -/
def notInName : List Char :=
  ['\x00', '\t', '\n', '\r', ' ', '#', '/', ':', '<', '>', '?', '@', '[', '\\', ']', '^', '|']

/-- Reads a name under a scheme that is not known. -/
def readName (text : List Char) : Except Fault Host :=
  if text.any notInName.contains then .error .badCharacter else .ok (.name (escaped [] text))

def read (isKnown : Bool) (text : List Char) : Except Fault Host :=
  match text with
  | '[' :: rest => readLong rest
  | _ => if isKnown then readDomain text else readName text

end Host

end ClusterProbe.Url
