/-!
# Levels of commitment

How far a transaction has to have got in a cluster before it counts.
-/

namespace ClusterProbe

inductive Commitment where
  | processed
  | confirmed
  | finalized
deriving DecidableEq, Repr

namespace Commitment

def name : Commitment → String
  | processed => "processed"
  | confirmed => "confirmed"
  | finalized => "finalized"

/-- The levels, weakest first. -/
def all : List Commitment := [processed, confirmed, finalized]

def ofName? (name : String) : Option Commitment := all.find? (·.name = name)

theorem ofName?_name (c : Commitment) : ofName? c.name = some c := by
  cases c <;> rfl

end Commitment

end ClusterProbe
