import ClusterProbe.Files
import ClusterProbe.Json.Reader
import ClusterProbe.Keypair

/-!
# Key pair files

A key pair file holds one JSON list of 64 numbers below 256: the octets of a stored key pair.  The
file is read octet by octet, and anything that is not such a list is reported where it is met.
-/

namespace ClusterProbe.KeypairFile

open Json (Parsed Misfit Found octet stop stopBefore)

/-- Reports a value, at its end, as not being what is expected. -/
def refuse {α : Type} (expected : String) : List UInt8 → Parsed α
  | [] => stop .endInValue []
  | b :: rest =>
    let misfit (found : Found) (rest : List UInt8) : Parsed α :=
      stop (.misfit (.type found expected)) rest
    let number (n : Parsed Json.Number) : Parsed α :=
      n.andThen fun n rest => stopBefore (.misfit (.type (.number n) expected)) rest
    if b = octet 'n' then
      Parsed.andThen (Json.word [octet 'u', octet 'l', octet 'l'] rest) fun _ => misfit .null
    else if b = octet 't' then
      Parsed.andThen (Json.word [octet 'r', octet 'u', octet 'e'] rest) fun _ => misfit (.bool true)
    else if b = octet 'f' then
      Parsed.andThen (Json.word [octet 'a', octet 'l', octet 's', octet 'e'] rest) fun _ =>
        misfit (.bool false)
    else if b = octet '-' then number (Json.unsignedNumber .stream true rest)
    else if Json.isDigit b then number (Json.unsignedNumber .stream false (b :: rest))
    else if b = octet '"' then
      Parsed.andThen (Json.stringBody rest) fun text => misfit (.string text)
    else if b = octet '[' then misfit .sequence rest
    else if b = octet '{' then misfit .map rest
    else stop .noValue rest

/-- An octet out of a number; a number out of range is reported after looking at what follows it. -/
def ofNumber (n : Json.Number) (rest : List UInt8) : Parsed UInt8 :=
  match n with
  | .count k =>
    if k < 256 then .ok (UInt8.ofNat k, rest)
    else stopBefore (.misfit (.value (.number n) "u8")) rest
  | .negative _ => stopBefore (.misfit (.value (.number n) "u8")) rest
  | .double _ => stopBefore (.misfit (.type (.number n) "u8")) rest

def item (s : List UInt8) : Parsed UInt8 :=
  match s with
  | [] => stop .endInValue []
  | b :: rest =>
    if b = octet '-' then (Json.unsignedNumber .stream true rest).andThen ofNumber
    else if Json.isDigit b then (Json.unsignedNumber .stream false s).andThen ofNumber
    else refuse "u8" s

def list (s : List UInt8) : Parsed (List UInt8) :=
  match Json.skipBlanks s with
  | [] => stop .endInValue []
  | b :: rest => if b = octet '[' then Json.items item rest else refuse "a sequence" (b :: rest)

/-- Why a file holds no key pair. -/
inductive Fault where
  | file (fault : FileFault)
  /-- It is not one list of octets. -/
  | list (error : Json.Error)
  | keypair (fault : Keypair.Fault)

def Fault.message : Fault → String
  | .file fault => fault.message
  | .list error => error.message
  | .keypair fault => fault.message

/-- The key pair in the content of a file. -/
def ofContent (content : List UInt8) : Except Fault Keypair :=
  match Json.readWhole list content with
  | .error error => .error (.list error)
  | .ok octets =>
    match Keypair.ofOctets octets with
    | .error fault => .error (.keypair fault)
    | .ok keypair => .ok keypair

def load (read : Path → Except FileFault (List UInt8)) (path : Path) : Except Fault Keypair :=
  match read path with
  | .error fault => .error (.file fault)
  | .ok content => ofContent content

end ClusterProbe.KeypairFile
