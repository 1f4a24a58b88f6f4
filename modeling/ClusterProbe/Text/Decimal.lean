import ClusterProbe.Radix

/-!
# Decimal numbers

Numbers are written in decimal without leading zeros.  A 64-bit count is read from an optional `+`
and at least one digit, of value below `2 ^ 64`; the digits are read from the left, so of two faults
the one further left is reported.
-/

namespace ClusterProbe.Decimal

def symbol (d : Nat) : Char :=
  ['0', '1', '2', '3', '4', '5', '6', '7', '8', '9'].getD d '0'

/-- The digits of a number; a single zero for zero. -/
def digits (n : Nat) : List Char :=
  if n = 0 then ['0'] else (Radix.digits 10 n).map symbol

def text (n : Nat) : String := String.ofList (digits n)

def intText (n : Int) : String := if n < 0 then "-" ++ text n.natAbs else text n.natAbs

inductive Fault where
  | empty
  | invalidDigit
  | tooLarge
deriving DecidableEq, Repr

def Fault.message : Fault → String
  | .empty => "cannot parse integer from empty string"
  | .invalidDigit => "invalid digit found in string"
  | .tooLarge => "number too large to fit in target type"

def digit? (c : Char) : Option Nat :=
  if '0' ≤ c ∧ c ≤ '9' then some (c.toNat - '0'.toNat) else none

/-- Reads digits after the number `n`, while the number stays below `2 ^ 64`. -/
def accumulate (n : Nat) : List Char → Except Fault Nat
  | [] => .ok n
  | c :: cs =>
    match digit? c with
    | none => .error .invalidDigit
    | some d => if n * 10 + d < UInt64.size then accumulate (n * 10 + d) cs else .error .tooLarge

/-- The digits of a text, its optional sign left off. -/
def unsigned (text : List Char) : Except Fault (List Char) :=
  match text with
  | [] => .error .empty
  | ['+'] => .error .invalidDigit
  | '+' :: cs => .ok cs
  | cs => .ok cs

def read (text : String) : Except Fault UInt64 := do
  let digits ← unsigned text.toList
  let n ← accumulate 0 digits
  return UInt64.ofNat n

theorem accumulate_lt {n m : Nat} {cs : List Char} (hn : n < UInt64.size)
    (h : accumulate n cs = .ok m) : m < UInt64.size := by
  induction cs generalizing n with
  | nil =>
    cases h
    exact hn
  | cons c cs ih =>
    simp only [accumulate] at h
    split at h
    · cases h
    · split at h
      · exact ih (by assumption) h
      · cases h

end ClusterProbe.Decimal
