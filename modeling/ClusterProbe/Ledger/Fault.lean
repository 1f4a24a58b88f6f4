import ClusterProbe.Base58
import ClusterProbe.Json.Reader
import ClusterProbe.Rpc.Endpoint
import ClusterProbe.TransactionFault

/-!
# Failed ledger calls

Why a call of the ledger did not give an answer.  A fault has a kind, a text, and the chain of texts
that a report of its causes goes through: the fault itself, then its kind, which has the same text,
then whatever the kind was caused by.
-/

namespace ClusterProbe

inductive HttpFault where
  | badUrl (fault : Rpc.Endpoint.Fault)
  | refused (url : String)
  | status (code : Nat) (url : String)
  /-- The body of the reply is no JSON text. -/
  | body (error : Json.Error)

namespace HttpFault

def reason (code : Nat) : String :=
  match code with
  | 400 => "Bad Request"
  | 401 => "Unauthorized"
  | 402 => "Payment Required"
  | 403 => "Forbidden"
  | 404 => "Not Found"
  | 405 => "Method Not Allowed"
  | 406 => "Not Acceptable"
  | 407 => "Proxy Authentication Required"
  | 408 => "Request Timeout"
  | 409 => "Conflict"
  | 410 => "Gone"
  | 411 => "Length Required"
  | 412 => "Precondition Failed"
  | 413 => "Payload Too Large"
  | 414 => "URI Too Long"
  | 415 => "Unsupported Media Type"
  | 416 => "Range Not Satisfiable"
  | 417 => "Expectation Failed"
  | 418 => "I'm a teapot"
  | 421 => "Misdirected Request"
  | 422 => "Unprocessable Entity"
  | 423 => "Locked"
  | 424 => "Failed Dependency"
  | 426 => "Upgrade Required"
  | 428 => "Precondition Required"
  | 429 => "Too Many Requests"
  | 431 => "Request Header Fields Too Large"
  | 451 => "Unavailable For Legal Reasons"
  | 500 => "Internal Server Error"
  | 501 => "Not Implemented"
  | 502 => "Bad Gateway"
  | 503 => "Service Unavailable"
  | 504 => "Gateway Timeout"
  | 505 => "HTTP Version Not Supported"
  | 506 => "Variant Also Negotiates"
  | 507 => "Insufficient Storage"
  | 508 => "Loop Detected"
  | 510 => "Not Extended"
  | 511 => "Network Authentication Required"
  | _ => "<unknown status code>"

/-- The causes of a connection that was refused, outermost first. -/
def refusal : List String :=
  ["error trying to connect: tcp connect error: Connection refused (os error 111)",
   "tcp connect error: Connection refused (os error 111)",
   "Connection refused (os error 111)"]

/-- The causes of the fault, outermost first. -/
def sources : HttpFault → List String
  | .badUrl fault => [fault.message]
  | .refused _ => refusal
  | .status .. => []
  | .body error => [error.message]

def message : HttpFault → String
  | .badUrl fault =>
    let place := match fault.url? with
      | none => ""
      | some url => " for url (" ++ url ++ ")"
    "builder error" ++ place ++ ": " ++ fault.message
  | .refused url => "error sending request for url (" ++ url ++ "): " ++ refusal.headD ""
  | .status code url =>
    "HTTP status " ++ (if code < 500 then "client" else "server") ++ " error (" ++
      Decimal.text code ++ " " ++ reason code ++ ") for url (" ++ url ++ ")"
  | .body error => "error decoding response body: " ++ error.message

end HttpFault

inductive LedgerFault where
  | io (text : String)
  | http (fault : HttpFault)
  /-- The request cannot be made, or its reply contradicts it. -/
  | request (text : String)
  /-- The node answered with an error, for a failed preflight with the program's log. -/
  | response (code : Int) (message : String) (logs : List String)
  /-- A text in the reply is not what it should be. -/
  | parse (expected : String)
  /-- A failure with a text for the user. -/
  | forUser (text : String)
  /-- The result in the reply has the wrong shape. -/
  | shape (misfit : Json.Misfit)
  | transaction (fault : TransactionFault)
  /-- The wait for a signature was given up after so many polls, because of an interrupt. -/
  | waitInterrupted (signature : Signature) (polls : Nat)
  /-- The wait for a signature was given up after so many polls, because its time was up. -/
  | waitExpired (signature : Signature) (seconds polls : Nat)
  | custom (text : String)

namespace LedgerFault

inductive Kind where
  | io
  | http
  | request
  | response
  | parse
  | forUser
  | shape
  | transaction
  | custom
deriving DecidableEq, Repr

def kind : LedgerFault → Kind
  | .io _ => .io
  | .http _ => .http
  | .request _ => .request
  | .response .. => .response
  | .parse _ => .parse
  | .forUser _ => .forUser
  | .shape _ => .shape
  | .transaction _ => .transaction
  | .waitInterrupted .. => .custom
  | .waitExpired .. => .custom
  | .custom _ => .custom

/-- A note on the length of a program's log, unless it is empty. -/
def logNote (logs : List String) : String :=
  if logs.isEmpty then "" else "[" ++ Decimal.text logs.length ++ " log messages]"

def message : LedgerFault → String
  | .io text => text
  | .http fault => fault.message
  | .request text => "RPC request error: " ++ text
  | .response code message logs =>
    "RPC response error " ++ Decimal.intText code ++ ": " ++ message ++ " " ++ logNote logs
  | .parse expected => "parse error: expected " ++ expected
  | .forUser text => text
  | .shape misfit => misfit.message
  | .transaction fault => fault.message
  | .waitInterrupted signature polls =>
    "Custom: interrupted while waiting for " ++ signature.toBase58 ++ " (" ++ Decimal.text polls ++
      " polls)"
  | .waitExpired signature seconds polls =>
    "Custom: signature " ++ signature.toBase58 ++ " not confirmed after " ++ Decimal.text seconds ++
      "s (" ++ Decimal.text polls ++ " polls)"
  | .custom text => "Custom: " ++ text

/-- The texts of the fault and of all that caused it, outermost first. -/
def chain (fault : LedgerFault) : List String :=
  let further := match fault with
    | .http f => f.sources
    | _ => []
  fault.message :: fault.message :: further

end LedgerFault

end ClusterProbe
