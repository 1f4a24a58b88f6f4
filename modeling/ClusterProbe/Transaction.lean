import ClusterProbe.Base64
import ClusterProbe.Base58
import ClusterProbe.Keypair
import ClusterProbe.Message

/-!
# Transactions

A message with the signatures of its first keys.  A probe's transaction is signed by its payer and
nobody else, so an instruction that wants another signature cannot be sent.
-/

namespace ClusterProbe

/-- A message and its signatures, in the order of its keys. -/
structure Transaction where
  signatures : List Signature
  message : Message
deriving DecidableEq

namespace Transaction

/-- Why an instruction has no transaction signed by the payer alone. -/
inductive Fault where
  /-- A class of keys is too large for the header. -/
  | tooManyKeys
  /-- A list is too long for a compact length. -/
  | tooLong
  /-- Someone besides the payer would have to sign. -/
  | notEnoughSigners
deriving DecidableEq, Repr

def Fault.message : Fault → String
  | .tooManyKeys => "overflow when compiling message keys: AccountIndexOverflow"
  | .tooLong =>
    "called \x60Result::unwrap()\x60 on an \x60Err\x60 value: Custom(\"length larger than u16\")"
  | .notEnoughSigners => "Transaction::sign failed with error NotEnoughSigners"

/-- The transaction of an instruction, paid for and signed by `payer` alone. -/
def signedBy (payer : Keypair) (blockhash : BlockHash) (instruction : Instruction) :
    Except Fault Transaction :=
  match Message.compile? payer.publicKey blockhash [instruction] with
  | none => .error .tooManyKeys
  | some message =>
    if !message.hasOctets then .error .tooLong
    else if message.header.requiredSignatures ≠ 1 then .error .notEnoughSigners
    else .ok ⟨[payer.sign message.octets], message⟩

/-- The first signature, which names the transaction. -/
def signature? (t : Transaction) : Option Signature := t.signatures.head?

/-- The octets of a transaction as it is sent: the number of signatures, the signatures, and the
message. -/
def octets (t : Transaction) : List UInt8 :=
  CompactLength.encode t.signatures.length ++ t.signatures.flatMap (·.toList) ++ t.message.octets

def wire (t : Transaction) : String := Base64.encode t.octets

/-- Every signature belongs to its key and to the message. -/
def verified (t : Transaction) : Bool :=
  let message := t.message.octets
  (t.message.accountKeys.zip t.signatures).all fun (key, signature) =>
    Ed25519.verify key message signature

end Transaction

end ClusterProbe
