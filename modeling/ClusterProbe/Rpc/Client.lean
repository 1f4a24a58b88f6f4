import ClusterProbe.Json.Reader
import ClusterProbe.Rpc.Node
import ClusterProbe.Rpc.Simulation
import ClusterProbe.Rpc.Wait

/-!
# The client of a node

Ledger calls as JSON-RPC exchanges with a node.  The version of the node decides how some requests
are made; it is asked for when it is first needed and then remembered.
-/

namespace ClusterProbe.Rpc

/-- A client, and where connections are accepted. -/
structure Client where
  endpoint : String
  confirmation : Confirmation
  /-- A node listens at the host and the port. -/
  listens : String × Nat → Bool

structure Exchanged where
  request : Request
  exchange : Exchange

/-- What changes from call to call. -/
structure Session where
  /-- What the node does from now on. -/
  exchanges : List Exchange
  /-- The exchanges that have taken place, last one first. -/
  log : List Exchanged := []
  /-- The version of the node, once it is known. -/
  version : Option Semver := none
  flag : Bool := false

namespace Session

/-- The requests that were posted, in order and each as often as it was. -/
def posted (s : Session) : List Request :=
  s.log.reverse.flatMap fun e => List.replicate e.exchange.posts e.request

def after (s : Session) (request : Request) (xs : List Exchange) : Session :=
  { s with
    exchanges := s.exchanges.drop xs.length
    log := (xs.map (⟨request, ·⟩)).reverse ++ s.log
    flag := s.flag || xs.any (·.raised) }

/-- The next exchanges of a session, as many as asked for.  A node that has nothing more to say
answers with errors. -/
def upcoming (s : Session) (n : Nat) : List Exchange :=
  s.exchanges.take n ++ List.replicate (n - s.exchanges.length) Exchange.spent

end Session

/-- A part of a call: it goes on from a session, and gives a value or is aborted. -/
abbrev Exchanging (α : Type) := ExceptT (Abort LedgerFault) (StateM Session) α

def failWith {α : Type} (fault : LedgerFault) : Exchanging α := throw (.failed fault)

/-- Goes on with a value that was read, or fails. -/
def given {ε α : Type} (fault : ε → LedgerFault) : Except ε α → Exchanging α
  | .ok a => pure a
  | .error e => failWith (fault e)

/-- Goes on with the value of a result, or is aborted as it is. -/
def conclude {α : Type} : Except (Abort LedgerFault) α → Exchanging α
  | .ok a => pure a
  | .error abort => throw abort

/-- Fails for another reason where `part` fails. -/
def blaming {α : Type} (reason : LedgerFault → LedgerFault) (part : Exchanging α) : Exchanging α :=
  ExceptT.adapt (Abort.map reason) part

/-! ## Replies -/

/-- The fault of an error object in a reply.  For a failed preflight the log comes with it, if the
data of the error is well formed. -/
def errorFault (error : Json) : LedgerFault :=
  match errorObject error with
  | .error misfit =>
    .request ("Failed to deserialize RPC error response: " ++ error.compact ++ " [" ++
      misfit.message ++ "]")
  | .ok (code, message) =>
    .response code message (if code = -32002 then Simulation.logs (error.member "data") else [])

/-- The result in a reply.  An error that is no object does not count; a reply that is neither null
nor an object has no place for a result, and brings the program down. -/
def resultOf (reply : Json) : Except (Abort LedgerFault) Json :=
  let noPlace (kind : String) : Except (Abort LedgerFault) Json :=
    .error (.crashed ("cannot access key \"result\" in JSON " ++ kind))
  match reply with
  | .null => .ok .null
  | .object _ =>
    match reply.member "error" with
    | .object members => .error (.failed (errorFault (.object members)))
    | _ => .ok (reply.member "result")
  | .bool _ => noPlace "boolean"
  | .number _ => noPlace "number"
  | .string _ => noPlace "string"
  | .array _ => noPlace "array"

/-- The octets of the body of the last reply; a reply with the status 204 has no body. -/
def Exchange.content (x : Exchange) (request : Request) : List UInt8 :=
  if x.status = 204 then [] else x.body request

/-- The result in the last reply of an exchange.  A status that says neither that the request
succeeded nor that it failed brings the program down. -/
def Exchange.result (x : Exchange) (url : String) (request : Request) :
    Except (Abort LedgerFault) Json :=
  if 200 ≤ x.status ∧ x.status < 300 then
    match Json.read (x.content request) with
    | .ok reply => resultOf reply
    | .error error => .error (.failed (.http (.body error)))
  else if 400 ≤ x.status ∧ x.status < 600 then .error (.failed (.http (.status x.status url)))
  else .error (.crashed "called \x60Result::unwrap_err()\x60 on an \x60Ok\x60 value")

namespace Client

/-- The URL that requests go to, if the node can be reached there. -/
def reach (c : Client) : Except HttpFault String :=
  match Endpoint.read c.endpoint with
  | .error fault => .error (.badUrl fault)
  | .ok endpoint =>
    if c.listens endpoint.address then .ok endpoint.text else .error (.refused endpoint.text)

/-- Exchanges a request for the result in its reply. -/
def exchange (c : Client) (request : Request) : Exchanging Json := do
  let url ← given .http c.reach
  let session ← get
  let x := session.exchanges.headD .spent
  set (session.after request [x])
  conclude (x.result url request)

/-- Exchanges a request for a result of a shape. -/
def query {α : Type} (c : Client) (request : Request) (shape : Json.Shape α) : Exchanging α := do
  given .shape (shape (← c.exchange request))

/-! ## Versions -/

def versionText (c : Client) : Exchanging String := c.query .getVersion versionInfo

/-- Asks for the version of the node, and remembers it. -/
def askVersion (c : Client) : Exchanging Semver := do
  let text ← blaming (fun fault => .request ("cluster version query failed: " ++ fault.message))
    c.versionText
  let v ← given (fun fault => .request ("failed to parse cluster version: " ++ fault.message))
    (Semver.read text)
  modify fun session => { session with version := some v }
  return v

def version (c : Client) : Exchanging Semver := do
  match (← get).version with
  | some v => return v
  | none => c.askVersion

/-- The name of a level of commitment before it was renamed. -/
def formerName : Commitment → String
  | .processed => "recent"
  | .confirmed => "singleGossip"
  | .finalized => "max"

/-- The name by which a node of some version knows the level of commitment. -/
def levelName (c : Client) (v : Semver) : String :=
  if v.before 1 5 5 then formerName c.confirmation.level else c.confirmation.level.name

/-! ## Calls -/

def blockhash (c : Client) : Exchanging BlockHash := do
  let v ← c.version
  let text ←
    if v.before 1 9 0 then c.query (.getFees (c.levelName v)) (inContext fees none)
    else c.query (.getLatestBlockhash c.confirmation.level.name) (inContext Rpc.blockhash none)
  given (fun _ => .parse "Hash") (BlockHash.ofBase58 text)

/-- The fee of a message that its payer alone signs. -/
def fee (c : Client) : Exchanging UInt64 := do
  let hash ← c.blockhash
  let fee ← c.query (.getFeeForMessage (.ofFeeQuery hash) c.confirmation.level.name)
    (inContext (Json.Shape.nullable Json.Shape.u64) (some none))
  match fee with
  | some n => return UInt64.ofNat n
  | none => failWith (.custom "Invalid blockhash")

/-- What is said of an airdrop that failed, whatever the reason. -/
def airdropFailure : LedgerFault :=
  .forUser "airdrop request failed. This can happen when the rate limit is reached."

def airdrop (c : Client) (account : PublicKey) (lamports : UInt64) :
    Exchanging Signature := do
  let v ← c.version
  blaming (fun _ => airdropFailure) do
    let text ← c.query (.requestAirdrop account lamports (c.levelName v)) Json.Shape.string
    given (fun _ => airdropFailure) (Signature.ofBase58 text)

/-- What is wrong with the text of a signature. -/
def signatureFault : Base58.Fault → String
  | .wrongSize => "string decoded to wrong size for signature"
  | .invalid => "failed to decode string to signature"

/-- The signature in the text that the node names a transaction by, which has to be the
transaction's own. -/
def named (transaction : Transaction) (text : String) : Exchanging Signature := do
  let signature ← given (fun fault => .parse (signatureFault fault)) (Signature.ofBase58 text)
  let own := transaction.signature?.getD (.replicate 64 0)
  if signature = own then return own
  else failWith (.request ("RPC node returned mismatched signature " ++ signature.toBase58 ++
    ", expected " ++ own.toBase58))

/-- Hands in a transaction, and checks that the node names it by its own signature. -/
def send (c : Client) (transaction : Transaction) : Exchanging Signature := do
  let v ← c.version
  let encoding : Encoding := if v.before 1 3 16 then .base58 else .base64
  let text ← c.query (.sendTransaction transaction encoding (c.levelName v)) Json.Shape.string
  named transaction text

/-! ## Confirmation -/

/-- What the first of some statuses shows of a transaction.  Without any, the program crashes. -/
def lookAt (c : Client) : List (Option Status) → Look
  | [] => .unanswered (.crashed "index out of bounds: the len is 0 but the index is 0")
  | none :: _ => .pending
  | some s :: _ =>
    if s.satisfies c.confirmation.level then
      match s.fault with
      | none => .landed
      | some fault => .failed fault
    else .pending

def look (c : Client) (url : String) (signature : Signature) (x : Exchange) : Look :=
  match x.result url (.getSignatureStatuses signature) with
  | .error abort => .unanswered abort
  | .ok result =>
    match inContext (Json.Shape.list (Json.Shape.nullable status)) none result with
    | .error misfit => .unanswered (.failed (.shape misfit))
    | .ok statuses => c.lookAt statuses

/-- The turns of a wait, one for each exchange, if none of them ended it.  The wait has the flag and
the time at the beginning of the first one. -/
def turns (c : Client) (url : String) (signature : Signature) (flag : Bool) (elapsed : Nat) :
    List Exchange → List Turn
  | [] => []
  | x :: rest =>
    let elapsed := elapsed + x.delay
    ⟨flag, c.look url signature x, elapsed⟩ ::
      c.turns url signature (flag || x.raised) (elapsed + c.confirmation.interval.toNanos) rest

/-- The end of a wait on which all exchanges left to the node decide nothing: the node then has
nothing more to say. -/
def lastEnding (w : Wait) (url : String) (polls : Nat) (flag : Bool) : Ending :=
  if flag then w.interrupted polls
  else
    ⟨polls + 1,
      (Exchange.spent.result url (.getSignatureStatuses w.signature)).map (fun _ => ())⟩

def ending (c : Client) (w : Wait) (session : Session) : Ending :=
  match c.reach with
  | .error fault =>
    if session.flag then w.interrupted 0 else ⟨0, .error (.failed (.http fault))⟩
  | .ok url =>
    (w.ending 0 (c.turns url w.signature session.flag 0 session.exchanges)).getD
      (lastEnding w url session.exchanges.length
        (session.flag || session.exchanges.any (·.raised)))

/-- Waits until a transaction has got as far as the configured level. -/
def confirm (c : Client) (signature : Signature) : Exchanging Unit := do
  let session ← get
  -- The wait is decided by the exchanges to come; those that it looked at have then taken place.
  let e := c.ending ⟨signature, c.confirmation.timeout⟩ session
  set (session.after (.getSignatureStatuses signature) (session.upcoming e.polls))
  conclude e.outcome

/-! ## The ledger -/

def perform (c : Client) : (call : Call) → Exchanging call.Answer
  | .handshake => c.versionText
  | .fee => c.fee
  | .airdrop account lamports => c.airdrop account lamports
  | .confirm signature => c.confirm signature
  | .blockhash => c.blockhash
  | .send transaction => c.send transaction

def ledger (c : Client) : Ledger Session where
  answer session flag call :=
    let (outcome, session) := (c.perform call).run.run { session with flag }
    (outcome, session.flag, session)

end Client

end ClusterProbe.Rpc
