import ClusterProbe.Config
import ClusterProbe.Json.Shape
import ClusterProbe.Semver
import ClusterProbe.TransactionFault

/-!
# Results

The shapes of what a node answers: versions, fees, block hashes, and the statuses of signatures.
-/

namespace ClusterProbe.Rpc

open Json (Misfit Shape)
open Json.Shape

/-! ## Failed transactions -/

/-- The kind of a fault, by its name among all of its vocabulary. -/
def kindOf {α : Type} (all : List α) (name : α → String) (given : String) : Except Misfit α :=
  match all.find? (name · = given) with
  | some kind => .ok kind
  | none => .error (.variant given (all.map name))

def instructionFault : Shape InstructionFault := fun j => do
  let (name, payload) ← variant j
  match ← kindOf InstructionFault.Kind.all (·.name) name with
  | .plain kind => do
    bare payload
    return .plain kind
  | .custom => return .custom (← Json.Shape.payload u32 payload)
  | .serialization => return .serialization (← Json.Shape.payload string payload)

def accountIndex (members : List (String × Json)) : Except Misfit Nat := do
  require "account_index" (← member? members "account_index" u8)

def indexedFault (items : List Json) : Except Misfit (Nat × InstructionFault) := do
  let kind := "tuple variant TransactionError::InstructionError"
  let index ← itemAt kind 2 items 0 u8
  let fault ← itemAt kind 2 items 1 instructionFault
  noMore 2 items
  return (index, fault)

def transactionFault : Shape TransactionFault := fun j => do
  let (name, payload) ← variant j
  match ← kindOf TransactionFault.Kind.all (·.name) name with
  | .plain kind => do
    bare payload
    return .plain kind
  | .instruction => do
    let (index, fault) ←
      listPayload "tuple variant TransactionError::InstructionError" indexedFault payload
    return .instruction index fault
  | .duplicateInstruction => return .duplicateInstruction (← Json.Shape.payload u8 payload)
  | .insufficientFundsForRent =>
    return .insufficientFundsForRent (← recordPayload accountIndex payload)
  | .programRestricted => return .programRestricted (← recordPayload accountIndex payload)

/-- Reads the outcome of a transaction: nothing, or the fault. -/
def outcome : Shape (Option TransactionFault) := fun j => do
  let (name, payload) ← variant j
  match name with
  | "Ok" => do
    Json.Shape.payload unit payload
    return none
  | "Err" => return some (← Json.Shape.payload transactionFault payload)
  | _ => .error (.variant name ["Ok", "Err"])

/-! ## Records -/

def version : Shape Semver := fun j => do
  match Semver.read (← string j) with
  | .ok v => .ok v
  | .error fault => .error (.text fault.message)

/-- Reads the slot that an answer holds for, and the version of the interface. -/
def context : Shape (Nat × Option Semver)
  | .object members => do
    let api ← member? members "apiVersion" (nullable version)
    let slot ← member? members "slot" u64
    return (← require "slot" slot, api.join)
  | .array items => do
    let slot ← itemAt "struct RpcResponseContext" 2 items 0 u64
    let api ← itemAt "struct RpcResponseContext" 2 items 1 (nullable version)
    noMore 2 items
    return (slot, api)
  | j => mistyped "struct RpcResponseContext" j

/-- Reads an answer with its context.  The value may be left out if `absent` stands for it. -/
def inContext {α : Type} (shape : Shape α) (absent : Option α) : Shape α
  | .object members => do
    let given ← member? members "context" context
    let value ← member? members "value" shape
    let _ ← require "context" given
    match value with
    | some value => return value
    | none => require "value" absent
  | .array items => do
    let _ ← itemAt "struct Response" 2 items 0 context
    let value ← itemAt "struct Response" 2 items 1 shape
    noMore 2 items
    return value
  | j => mistyped "struct Response" j

def versionInfo : Shape String
  | .object members => do
    let _ ← member? members "feature-set" (nullable u32)
    let core ← member? members "solana-core" string
    require "solana-core" core
  | .array items => do
    let core ← itemAt "struct RpcVersionInfo" 2 items 0 string
    let _ ← itemAt "struct RpcVersionInfo" 2 items 1 (nullable u32)
    noMore 2 items
    return core
  | j => mistyped "struct RpcVersionInfo" j

def blockhash : Shape String
  | .object members => do
    let hash ← member? members "blockhash" string
    let height ← member? members "lastValidBlockHeight" u64
    let hash ← require "blockhash" hash
    let _ ← require "lastValidBlockHeight" height
    return hash
  | .array items => do
    let hash ← itemAt "struct RpcBlockhash" 2 items 0 string
    let _ ← itemAt "struct RpcBlockhash" 2 items 1 u64
    noMore 2 items
    return hash
  | j => mistyped "struct RpcBlockhash" j

def feeCalculator : Shape Nat
  | .object members => do
    require "lamportsPerSignature" (← member? members "lamportsPerSignature" u64)
  | .array items => do
    let fee ← itemAt "struct FeeCalculator" 1 items 0 u64
    noMore 1 items
    return fee
  | j => mistyped "struct FeeCalculator" j

def fees : Shape String
  | .object members => do
    let hash ← member? members "blockhash" string
    let fee ← member? members "feeCalculator" feeCalculator
    let height ← member? members "lastValidBlockHeight" u64
    let slot ← member? members "lastValidSlot" u64
    let hash ← require "blockhash" hash
    let _ ← require "feeCalculator" fee
    let _ ← require "lastValidSlot" slot
    let _ ← require "lastValidBlockHeight" height
    return hash
  | .array items => do
    let hash ← itemAt "struct RpcFees" 4 items 0 string
    let _ ← itemAt "struct RpcFees" 4 items 1 feeCalculator
    let _ ← itemAt "struct RpcFees" 4 items 2 u64
    let _ ← itemAt "struct RpcFees" 4 items 3 u64
    noMore 4 items
    return hash
  | j => mistyped "struct RpcFees" j

/-! ## Statuses of signatures -/

/-- How far a transaction has got, as a node reports it. -/
structure Status where
  slot : Nat
  /-- How many blocks confirm it; none once it is rooted. -/
  confirmations : Option Nat
  /-- Its fault, if it failed. -/
  fault : Option TransactionFault
  /-- The level that it has reached, if the node says so. -/
  level : Option Commitment
deriving DecidableEq

def commitment : Shape Commitment := fun j => do
  let (name, payload) ← variant j
  let level ← kindOf Commitment.all (·.name) name
  bare payload
  return level

/-- Reads a status.  Its `status` says whether the transaction failed, and not its `err`. -/
def status : Shape Status
  | .object members => do
    let level ← member? members "confirmationStatus" (nullable commitment)
    let confirmations ← member? members "confirmations" (nullable size)
    let _ ← member? members "err" (nullable transactionFault)
    let slot ← member? members "slot" u64
    let fault ← member? members "status" outcome
    let slot ← require "slot" slot
    let fault ← require "status" fault
    return ⟨slot, confirmations.join, fault, level.join⟩
  | .array items => do
    let slot ← itemAt "struct TransactionStatus" 5 items 0 u64
    let confirmations ← itemAt "struct TransactionStatus" 5 items 1 (nullable size)
    let fault ← itemAt "struct TransactionStatus" 5 items 2 outcome
    let _ ← itemAt "struct TransactionStatus" 5 items 3 (nullable transactionFault)
    let level ← itemAt "struct TransactionStatus" 5 items 4 (nullable commitment)
    noMore 5 items
    return ⟨slot, confirmations, fault, level⟩
  | j => mistyped "struct TransactionStatus" j

/-- The transaction has got as far as a level asks.  A status without a level of its own is judged
by its confirmations, and only a rooted one is final. -/
def Status.satisfies (s : Status) : Commitment → Bool
  | .processed => true
  | .confirmed =>
    match s.level with
    | some level => level ≠ .processed
    | none =>
      match s.confirmations with
      | none => true
      | some n => 1 < n
  | .finalized => s.confirmations.isNone

/-! ## Errors -/

def errorObject : Shape (Int × String)
  | .object members => do
    let code ← member? members "code" i64
    let message ← member? members "message" string
    return (← require "code" code, ← require "message" message)
  | j => mistyped "struct RpcErrorObject" j

end ClusterProbe.Rpc
