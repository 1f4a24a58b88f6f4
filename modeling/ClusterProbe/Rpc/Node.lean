import ClusterProbe.Duration
import ClusterProbe.Rpc.Request
import ClusterProbe.Text.Utf8

/-!
# Nodes

What a node does, as the replies that it gives in turn, together with what happens meanwhile:
whether an interrupt arrives, and how long a client is told to wait.  A reply with the status 429
makes the client post the same request again, up to five times; one request with all its posts is an
exchange.  A node that has run out of replies answers every request with an error.
-/

namespace ClusterProbe.Rpc

structure Reply where
  status : Nat := 200
  /-- The octets of the body, which should be JSON text. -/
  body : Request → List UInt8
  /-- After how many seconds the request may be posted again. -/
  retryAfter : Option Nat := none
  /-- An interrupt arrives before the reply. -/
  raise : Bool := false

/-- A request with all its posts: the last reply, and what has happened before it. -/
structure Exchange where
  posts : Nat
  raised : Bool
  /-- The time in nanoseconds that passes between the posts. -/
  delay : Nat
  status : Nat
  body : Request → List UInt8

namespace Exchange

/-- The error of a node that has run out of replies. -/
def exhausted : Json :=
  .object [("error", .object [("code", .number (.negative 1)),
    ("message", .string "script exhausted")])]

def bodyOf (value : Json) : List UInt8 := Utf8.encode value.compact

/-- The exchange with a node that has run out of replies, after some posts. -/
def silent (posts : Nat) (raised : Bool) (delay : Nat) : Exchange :=
  ⟨posts + 1, raised, delay, 200, fun _ => bodyOf exhausted⟩

/-- A whole exchange with a node that has run out of replies. -/
def spent : Exchange := silent 0 false 0

/-- How often a request is posted again. -/
def retries : Nat := 5

/-- The time in nanoseconds before a request is posted again: what the node says, below two minutes,
and half a second otherwise. -/
def pause (retryAfter : Option Nat) : Nat :=
  match retryAfter with
  | some n =>
    if n < 120 then (Duration.ofSeconds n).toNanos else (Duration.ofMillis 500).toNanos
  | none => (Duration.ofMillis 500).toNanos

/-- The exchanges that replies make up.  The first of them has had `posts` posts before, and may
have `left` more before its last one. -/
def group (left posts : Nat) (raised : Bool) (delay : Nat) : List Reply → List Exchange
  | [] => if posts = 0 then [] else [silent posts raised delay]
  | r :: rest =>
    if r.status = 429 ∧ 0 < left then
      group (left - 1) (posts + 1) (raised || r.raise) (delay + pause r.retryAfter) rest
    else
      ⟨posts + 1, raised || r.raise, delay, r.status, r.body⟩ :: group retries 0 false 0 rest

/-- The exchanges that replies make up. -/
def ofReplies (replies : List Reply) : List Exchange := group retries 0 false 0 replies

end Exchange

end ClusterProbe.Rpc
