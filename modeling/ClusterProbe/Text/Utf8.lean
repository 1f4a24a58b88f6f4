/-!
# UTF-8

Octets to characters.  A well-formed sequence is one character; anything else is cut into maximal
parts that begin a well-formed sequence, and each such part counts as one fault.  `decode?` refuses
a text with a fault, `decodeLossy` shows each fault as U+FFFD.
-/

namespace ClusterProbe.Utf8

/-- What a leading octet announces: its share of the code point, how many octets follow, and the
range of the first of them. -/
structure Lead where
  bits : Nat
  tails : Nat
  low : UInt8
  high : UInt8

/-- The leading octets of sequences that are one code point in shortest form and no surrogate. -/
def lead? (b : UInt8) : Option Lead :=
  if b < 0x80 then some ⟨b.toNat, 0, 0x80, 0xBF⟩
  else if b < 0xC2 then none
  else if b < 0xE0 then some ⟨b.toNat - 0xC0, 1, 0x80, 0xBF⟩
  else if b < 0xF0 then
    -- After 0xE0 a lower octet would not be shortest form, after 0xED a higher one a surrogate.
    some ⟨b.toNat - 0xE0, 2, if b = 0xE0 then 0xA0 else 0x80, if b = 0xED then 0x9F else 0xBF⟩
  else if b < 0xF5 then
    -- Likewise after 0xF0; after 0xF4 a higher octet would lie beyond the last code point.
    some ⟨b.toNat - 0xF0, 3, if b = 0xF0 then 0x90 else 0x80, if b = 0xF4 then 0x8F else 0xBF⟩
  else none

/-- Reads `n` following octets, the first of them in the given range, and gives the code point and
what is left; without a code point, what is left begins at the octet out of range. -/
def tails : (n : Nat) → (low high : UInt8) → (code : Nat) → List UInt8 → Option Nat × List UInt8
  | 0, _, _, code, s => (some code, s)
  | _ + 1, _, _, _, [] => (none, [])
  | n + 1, low, high, code, b :: s =>
    if low ≤ b ∧ b ≤ high then tails n 0x80 0xBF (code * 64 + b.toNat % 64) s else (none, b :: s)

/-- The character that begins with octet `b`, or none for a fault, and the octets after it. -/
def step (b : UInt8) (s : List UInt8) : Option Char × List UInt8 :=
  match lead? b with
  | none => (none, s)
  | some l =>
    let (code, rest) := tails l.tails l.low l.high l.bits s
    (code.map Char.ofNat, rest)

theorem length_tails_le (n : Nat) (low high : UInt8) (code : Nat) (s : List UInt8) :
    (tails n low high code s).2.length ≤ s.length := by
  induction n generalizing low high code s with
  | zero => simp [tails]
  | succ n ih =>
    cases s with
    | nil => simp [tails]
    | cons b s =>
      simp only [tails]
      split
      · exact Nat.le_succ_of_le (ih ..)
      · simp

theorem length_step_le (b : UInt8) (s : List UInt8) : (step b s).2.length ≤ s.length := by
  unfold step
  split
  · simp
  · exact length_tails_le ..

/-- The characters and faults of a text, in order. -/
def scan : List UInt8 → List (Option Char)
  | [] => []
  | b :: s => (step b s).1 :: scan (step b s).2
termination_by s => s.length
decreasing_by exact Nat.lt_succ_of_le (length_step_le b s)

/-- The text, if it is free of faults. -/
def decode? (s : List UInt8) : Option String :=
  ((scan s).mapM id).map String.ofList

/-- The text with U+FFFD for each fault. -/
def decodeLossy (s : List UInt8) : String :=
  String.ofList ((scan s).map (·.getD '\uFFFD'))

def encode (text : String) : List UInt8 := text.toUTF8.toList

end ClusterProbe.Utf8
