import ClusterProbe.Text.Decimal

/-!
# Shortest decimal text of a double

A finite positive double is `m * 2 ^ q`.  The reals that round to it form an interval around it,
closed when `m` is even.  `shortest` looks for the coarsest decimal grid with a point in that
interval and, on that grid, for the point nearest to the value: fewest digits first, nearest next.
All of it is arithmetic on natural numbers; only `decompose` looks at the bits of the double.
-/

namespace ClusterProbe.Float64

/-- A finite positive double: `mantissa * 2 ^ exponent`, and whether the next double below is only
half as far away as the next one above. -/
structure Binary where
  mantissa : Nat
  exponent : Int
  narrowBelow : Bool

/-- A number in scientific form: `digits * 10 ^ exponent`. -/
structure Scientific where
  digits : Nat
  exponent : Int
deriving Repr, DecidableEq

/-- The parts of a finite double, sign aside. -/
def decompose (x : Float) : Binary :=
  let bits := x.toBits.toNat
  let e : Nat := bits / Nat.pow 2 52 % 2048
  let f : Nat := bits % Nat.pow 2 52
  if e = 0 then ⟨f, -1074, false⟩ else ⟨Nat.pow 2 52 + f, Int.ofNat e - 1075, f = 0 ∧ 1 < e⟩

/-- The value and the ends of its interval over one denominator: `low`, `value`, `high`, `den`. -/
def Binary.interval (b : Binary) : Nat × Nat × Nat × Nat :=
  let scale := Nat.pow 2 b.exponent.toNat
  let value := 4 * b.mantissa * scale
  let below := if b.narrowBelow then scale else 2 * scale
  (value - below, value, value + 2 * scale, 4 * Nat.pow 2 (-b.exponent).toNat)

/-- The point of the grid `10 ^ e` nearest to the value, if the interval holds a point of it.  A tie
goes to the even digit. -/
def Binary.onGrid (b : Binary) (e : Int) : Option Nat :=
  let (low, value, high, den) := b.interval
  let up := Nat.pow 10 (-e).toNat
  let unit := den * Nat.pow 10 e.toNat
  let inside (n : Nat) : Bool :=
    if b.mantissa % 2 = 0 then low * up ≤ n * unit ∧ n * unit ≤ high * up
    else low * up < n * unit ∧ n * unit < high * up
  -- If the interval holds a point of the grid, it holds one of the two around the value.
  let floor := value * up / unit
  let ceil := floor + 1
  let downGap := value * up - floor * unit
  let upGap := ceil * unit - value * up
  match inside floor && floor != 0, inside ceil with
  | true, true =>
    if downGap < upGap ∨ (downGap = upGap ∧ floor % 2 = 0) then some floor else some ceil
  | true, false => some floor
  | false, true => some ceil
  | false, false => none

/-- The coarsest of `count` grids, going down from `10 ^ e`, that has a point in the interval. -/
def Binary.search (b : Binary) : (count : Nat) → (e : Int) → Scientific
  | 0, e => ⟨(b.onGrid e).getD 0, e⟩
  | count + 1, e =>
    match b.onGrid e with
    | some n => ⟨n, e⟩
    | none => b.search count (e - 1)

/-- Leaves off zeros at the end of the digits, up to `count` of them. -/
def Scientific.strip : (count : Nat) → Scientific → Scientific
  | 0, d => d
  | count + 1, d =>
    if d.digits ≠ 0 ∧ d.digits % 10 = 0 then strip count ⟨d.digits / 10, d.exponent + 1⟩ else d

/-- The shortest decimal that reads back as the double. -/
def shortest (x : Float) : Scientific :=
  ((decompose x).search 700 309).strip 20

/-- Positional notation for exponents of ten from -5 to 15, with at least one digit on each side of
the point; otherwise one digit before the point, and a signed exponent. -/
def Scientific.text (d : Scientific) : String :=
  let digits := Decimal.digits d.digits
  let k := digits.length
  let top := (k : Int) + d.exponent
  if 0 ≤ d.exponent ∧ top ≤ 16 then
    String.ofList (digits ++ List.replicate d.exponent.toNat '0') ++ ".0"
  else if 0 < top ∧ top ≤ 16 then
    String.ofList (digits.take top.toNat) ++ "." ++ String.ofList (digits.drop top.toNat)
  else if -5 < top ∧ top ≤ 0 then
    "0." ++ String.ofList (List.replicate (-top).toNat '0' ++ digits)
  else
    let e := top - 1
    let sign := if e < 0 then "e-" else "e+"
    let fraction := String.ofList (digits.drop 1)
    String.ofList (digits.take 1) ++ (if fraction.isEmpty then "" else "." ++ fraction) ++ sign ++
      Decimal.text e.natAbs

/-- The text of a finite double: the shortest decimal, with a sign where the sign bit is set. -/
def text (x : Float) : String :=
  let sign := if x.toBits.toNat < UInt64.size / 2 then "" else "-"
  if x == 0.0 then sign ++ "0.0" else sign ++ (shortest x).text

end ClusterProbe.Float64
