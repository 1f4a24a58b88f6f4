import ClusterProbe.Domain.Refused
import ClusterProbe.Domain.Shifts
import ClusterProbe.Domain.Spellings
import ClusterProbe.Domain.Substitutes
import ClusterProbe.Text.Ranges

/-!
# How the characters of a domain are read

A domain means the same in capital and small letters, in letters of different styles, and with or
without characters that only say how others look.  So each character is read as the characters that
stand for it and all its variants; most characters stand for themselves.
-/

namespace ClusterProbe.Domain

/-- The entry for a number, in rows that each have entries for the numbers from a first one on. -/
def entry? {α : Type} (rows : List (Nat × List α)) (n : Nat) : Option α :=
  rows.findSome? fun (first, entries) => if first ≤ n then entries[n - first]? else none

/-- The code points that are read in place of a code point, if they are others. -/
def others? (n : Nat) : Option (List Nat) :=
  match shifts.findSome? (·.of? n) with
  | some m => some [m]
  | none =>
    match entry? substitutes n with
    | some m => some [m]
    | none => entry? spellings n

/-- What a character is read as; none if no domain can have it. -/
def reading? (c : Char) : Option (List Char) :=
  if Text.inRanges dropped c then some []
  else
    match others? c.toNat with
    | some codes => some (codes.map Char.ofNat)
    | none => if Text.inRanges refused c then none else some [c]

def isSettled (c : Char) : Bool := reading? c = some [c]

end ClusterProbe.Domain
