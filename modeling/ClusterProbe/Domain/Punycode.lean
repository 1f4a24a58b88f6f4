/-!
# Labels in ASCII letters

A label with characters beyond ASCII is written in ASCII: first its ASCII characters, then, for each
other character in the order of the code points, how far it is from the one before.  The distance
counts every place in the label for every code point passed, and is written in digits of changing
worth, the lowest first, so that no mark is needed where it ends.
-/

namespace ClusterProbe.Domain.Punycode

def symbol (d : Nat) : Char :=
  if d < 26 then Char.ofNat ('a'.toNat + d) else Char.ofNat ('0'.toNat + (d - 26))

def digit? (c : Char) : Option Nat :=
  if 'a' ≤ c ∧ c ≤ 'z' then some (c.toNat - 'a'.toNat)
  else if '0' ≤ c ∧ c ≤ '9' then some (c.toNat - '0'.toNat + 26)
  else none

/-- The least digit at a place after which another one follows.  Places are counted in steps of 36,
from 36 on. -/
def threshold (place bias : Nat) : Nat := if place ≤ bias then 1 else min 26 (place - bias)

theorem threshold_pos (place bias : Nat) : 0 < threshold place bias := by
  unfold threshold
  split <;> omega

/-- The bias that fits a distance, its places counted from `place` on. -/
def fitting (place distance : Nat) : Nat :=
  if 455 < distance then fitting (place + 36) (distance / 35)
  else place + 36 * distance / (distance + 38)
termination_by distance
decreasing_by exact Nat.div_lt_self (by omega) (by omega)

/-- The bias after a distance has been written for the character that made the label `size`
characters long. -/
def biasAfter (distance size : Nat) (isFirst : Bool) : Nat :=
  let scaled := if isFirst then distance / 700 else distance / 2
  fitting 0 (scaled + scaled / size)

def initialBias : Nat := 72

/-! ## Writing -/

/-- The digits of a distance from a place on. -/
def digits (bias place distance : Nat) : List Char :=
  let t := threshold place bias
  if distance < t then [symbol distance]
  else
    symbol (t + (distance - t) % (36 - t)) :: digits bias (place + 36) ((distance - t) / (36 - t))
termination_by distance
decreasing_by
  have := threshold_pos place bias
  exact Nat.lt_of_le_of_lt (Nat.div_le_self _ _) (by omega)

structure Writer where
  out : List Char
  /-- The distance from the last character written. -/
  distance : Nat
  bias : Nat
  size : Nat

/-- Passes a character of the label, looking for those of the code point `n`. -/
def Writer.pass (ascii n : Nat) (w : Writer) (c : Char) : Writer :=
  if c.toNat < n then { w with distance := w.distance + 1 }
  else if c.toNat = n then
    ⟨w.out ++ digits w.bias 36 w.distance, 0,
      biasAfter w.distance (w.size + 1) (w.size = ascii), w.size + 1⟩
  else w

/-- Writes the characters with the code points given, which go up from `last`. -/
def Writer.write (label : List Char) (ascii : Nat) : (last : Nat) → List Nat → Writer → Writer
  | _, [], w => w
  | last, n :: rest, w =>
    let reached := { w with distance := w.distance + (n - last) * (w.size + 1) }
    let passed := label.foldl (Writer.pass ascii n) reached
    Writer.write label ascii (n + 1) rest { passed with distance := passed.distance + 1 }

def encode (label : List Char) : List Char :=
  let ascii := label.filter (·.toNat < 0x80)
  let codes := ((label.map Char.toNat).filter (0x80 ≤ ·)).mergeSort.eraseReps
  let w := Writer.write label ascii.length 0x80 codes ⟨[], 0, initialBias, ascii.length⟩
  (if ascii.isEmpty then [] else ascii ++ ['-']) ++ w.out

/-! ## Reading -/

structure Reader where
  label : List Char
  /-- The code point of the last character read. -/
  code : Nat
  /-- The place after it, moved on by the digits read since. -/
  position : Nat
  /-- The place after it. -/
  start : Nat
  bias : Nat
  /-- The place of the next digit. -/
  place : Nat
  /-- What a digit at that place is worth. -/
  weight : Nat

/-- Reads a digit.  Distances and their digits' worth stay below `2 ^ 32`. -/
def Reader.step (r : Reader) (c : Char) : Option Reader := do
  let d ← digit? c
  let t := threshold r.place r.bias
  let position := r.position + d * r.weight
  if UInt32.size ≤ position then none
  else if t ≤ d then
    if UInt32.size ≤ r.weight * (36 - t) then none
    else some { r with position, place := r.place + 36, weight := r.weight * (36 - t) }
  else
    let size := r.label.length + 1
    let code := r.code + position / size
    let place := position % size
    if code.isValidChar then
      some ⟨r.label.insertIdx place (Char.ofNat code), code, place + 1, place + 1,
        biasAfter (position - r.start) size (r.start = 0), 36, 1⟩
    else none

/-- The label that is written in ASCII, if it is one.  Without ASCII characters of its own it has no
hyphen before the distances. -/
def decode? (text : List Char) : Option (List Char) := do
  let distances := (text.reverse.takeWhile (· ≠ '-')).reverse
  let ascii := text.take (text.length - distances.length - 1)
  let distances := if ascii.isEmpty then text else distances
  if ascii.any (0x80 ≤ ·.toNat) then none
  else
    let r ← distances.foldlM Reader.step ⟨ascii, 0x80, 0, 0, initialBias, 36, 1⟩
    if r.place = 36 then some r.label else none

end ClusterProbe.Domain.Punycode
