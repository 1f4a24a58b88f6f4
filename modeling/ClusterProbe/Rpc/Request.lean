import ClusterProbe.Config
import ClusterProbe.Json.Basic
import ClusterProbe.Transaction

/-!
# Requests

The JSON-RPC requests that are made of a node, with their methods and parameters.
-/

namespace ClusterProbe.Rpc

/-- How a transaction is written in a request. -/
inductive Encoding where
  | base58
  | base64
deriving DecidableEq, Repr

def Encoding.name : Encoding → String
  | .base58 => "base58"
  | .base64 => "base64"

def Encoding.encode : Encoding → List UInt8 → String
  | .base58 => Base58.encode
  | .base64 => Base64.encode

/-- A request.  Levels of commitment are given by the names that the node knows them by. -/
inductive Request where
  | getVersion
  | getLatestBlockhash (commitment : String)
  | getFees (commitment : String)
  | getFeeForMessage (message : Message) (commitment : String)
  | requestAirdrop (account : PublicKey) (lamports : UInt64) (commitment : String)
  | sendTransaction (transaction : Transaction) (encoding : Encoding) (commitment : String)
  | getSignatureStatuses (signature : Signature)

namespace Request

def method : Request → String
  | .getVersion => "getVersion"
  | .getLatestBlockhash _ => "getLatestBlockhash"
  | .getFees _ => "getFees"
  | .getFeeForMessage .. => "getFeeForMessage"
  | .requestAirdrop .. => "requestAirdrop"
  | .sendTransaction .. => "sendTransaction"
  | .getSignatureStatuses _ => "getSignatureStatuses"

/-- A level of commitment as a parameter. -/
def level (commitment : String) : Json := .object [("commitment", .string commitment)]

def params : Request → Json
  | .getVersion => .null
  | .getLatestBlockhash commitment => .array [level commitment]
  | .getFees commitment => .array [level commitment]
  | .getFeeForMessage message commitment =>
    .array [.string (Base64.encode message.octets), level commitment]
  | .requestAirdrop account lamports commitment =>
    .array [.string account.toBase58, .ofNat lamports.toNat,
      .ofMembers [("commitment", .string commitment), ("recentBlockhash", .null)]]
  | .sendTransaction transaction encoding commitment =>
    .array [.string (encoding.encode transaction.octets),
      .ofMembers [("encoding", .string encoding.name), ("maxRetries", .null),
        ("minContextSlot", .null), ("preflightCommitment", .string commitment),
        ("skipPreflight", .bool false)]]
  | .getSignatureStatuses signature => .array [.array [.string signature.toBase58]]

end Request

end ClusterProbe.Rpc
