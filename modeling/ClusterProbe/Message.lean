import ClusterProbe.CompactLength
import ClusterProbe.Instruction
import ClusterProbe.SortedKeys

/-!
# Messages

The part of a transaction that is signed.  It lists every key once, in four classes: keys that sign
and are writable, with the payer first of all; keys that sign; keys that are writable; the others.
Each class is in the order of the keys' octets.  Three counts in the header give the bounds of the
classes, and instructions name keys by their places in the list.
-/

namespace ClusterProbe

/-- How many keys sign, and how many of the signing and of the other keys are read-only. -/
structure Message.Header where
  requiredSignatures : UInt8
  readonlySigned : UInt8
  readonlyUnsigned : UInt8
deriving DecidableEq

/-- An instruction with keys replaced by their places in the message's list. -/
structure Message.Call where
  programIdIndex : UInt8
  accounts : List UInt8
  data : List UInt8
deriving DecidableEq

/-- What a transaction's signatures are over. -/
structure Message where
  header : Message.Header
  accountKeys : List PublicKey
  recentBlockhash : BlockHash
  calls : List Message.Call
deriving DecidableEq

namespace Message

/-- Every mention of a key by an instruction: its program, then its accounts. -/
def mentions (instructions : List Instruction) : List AccountMeta :=
  instructions.flatMap fun i => ⟨i.programId, false, false⟩ :: i.accounts

/-- The keys other than the payer's for which some mention asks for a signature, or none does, and
some mention asks to write, or none does. -/
def keyClass (payer : PublicKey) (mentions : List AccountMeta) (signer writable : Bool) :
    List PublicKey :=
  let signers := SortedKeys.ofList ((mentions.filter (·.signer)).map (·.key))
  let writables := SortedKeys.ofList ((mentions.filter (·.writable)).map (·.key))
  (SortedKeys.ofList (mentions.map (·.key))).filter fun k =>
    k ≠ payer && decide (k ∈ signers) = signer && decide (k ∈ writables) = writable

/-- The message of some instructions; none when a count of the header would exceed 255. -/
def compile? (payer : PublicKey) (blockhash : BlockHash) (instructions : List Instruction) :
    Option Message :=
  let all := mentions instructions
  let writableSigners := payer :: keyClass payer all true true
  let readonlySigners := keyClass payer all true false
  let writables := keyClass payer all false true
  let readonlys := keyClass payer all false false
  let signed := writableSigners.length + readonlySigners.length
  if 255 < signed ∨ 255 < readonlySigners.length ∨ 255 < readonlys.length then none
  else
    let keys := writableSigners ++ readonlySigners ++ writables ++ readonlys
    let place (key : PublicKey) : UInt8 := UInt8.ofNat (keys.idxOf key)
    some {
      header := ⟨UInt8.ofNat signed, UInt8.ofNat readonlySigners.length,
        UInt8.ofNat readonlys.length⟩
      accountKeys := keys
      recentBlockhash := blockhash
      calls := instructions.map fun i =>
        ⟨place i.programId, i.accounts.map fun a => place a.key, i.data⟩ }

def Call.octets (c : Call) : List UInt8 :=
  c.programIdIndex :: CompactLength.encodeList c.accounts ++ CompactLength.encodeList c.data

/-- The octets that are signed. -/
def octets (m : Message) : List UInt8 :=
  [m.header.requiredSignatures, m.header.readonlySigned, m.header.readonlyUnsigned] ++
    CompactLength.encode m.accountKeys.length ++ m.accountKeys.flatMap (·.toList) ++
    m.recentBlockhash.toList ++
    CompactLength.encode m.calls.length ++ m.calls.flatMap Call.octets

/-- Every list of the message is short enough for a compact length. -/
def hasOctets (m : Message) : Bool :=
  m.accountKeys.length < CompactLength.limit && m.calls.length < CompactLength.limit &&
    m.calls.all fun c =>
      c.accounts.length < CompactLength.limit && c.data.length < CompactLength.limit

/-- The message whose fee stands for that of one signature: no instruction, and a payer of zeros. -/
def ofFeeQuery (blockhash : BlockHash) : Message :=
  ⟨⟨1, 0, 0⟩, [.replicate 32 0], blockhash, []⟩

/-- The message of a fee query is the compiled message of no instruction. -/
theorem compile?_nil (blockhash : BlockHash) :
    compile? (.replicate 32 0) blockhash [] = some (ofFeeQuery blockhash) := rfl

end Message

end ClusterProbe
