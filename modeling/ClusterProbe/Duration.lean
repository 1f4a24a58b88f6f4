/-!
# Durations

Spans of time, exact to the nanosecond.
-/

namespace ClusterProbe

/-- A span of time: whole seconds, and a rest in nanoseconds. -/
structure Duration where
  seconds : Nat
  nanos : Nat
deriving DecidableEq, Repr

namespace Duration

def nanosPerSecond : Nat := 1000000000

def nanosPerMilli : Nat := 1000000

def ofSeconds (n : Nat) : Duration := ⟨n, 0⟩

def ofMillis (n : Nat) : Duration := ⟨n / 1000, n % 1000 * nanosPerMilli⟩

def toNanos (d : Duration) : Nat := d.seconds * nanosPerSecond + d.nanos

end Duration

end ClusterProbe
