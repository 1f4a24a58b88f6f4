import ClusterProbe.Domain.CombiningClass
import ClusterProbe.Domain.Composites

/-!
# Letters and their marks

The same letter with marks can be written in several ways: with the marks as characters of their
own, in several orders, or as one character.  To bring a text into its one normal form, everything
is taken apart, the marks are put in order, and then as much as possible is put together.
-/

namespace ClusterProbe.Domain

/-! ## Syllables

Korean syllables are put together by rule: a first consonant, a vowel, and perhaps a last consonant.
-/

namespace Syllable

def base : Nat := 0xAC00

def firsts : Nat := 19

def vowels : Nat := 21

/-- How many last consonants there are, counting the case that there is none. -/
def lasts : Nat := 28

/-- The code point before those of the last consonants. -/
def lastBase : Nat := 0x11A7

def vowelBase : Nat := 0x1161

def firstBase : Nat := 0x1100

/-- The two parts of a syllable: what comes before its last consonant, and that; without a last
consonant, the first one and the vowel. -/
def split? (n : Nat) : Option (Nat × Nat) :=
  let i := n - base
  if base ≤ n ∧ i < firsts * vowels * lasts then
    if i % lasts = 0 then
      some (firstBase + i / (vowels * lasts), vowelBase + i / lasts % vowels)
    else some (n - i % lasts, lastBase + i % lasts)
  else none

/-- The syllable that two parts make up. -/
def join? (a b : Nat) : Option Nat :=
  if firstBase ≤ a ∧ a < firstBase + firsts ∧ vowelBase ≤ b ∧ b < vowelBase + vowels then
    some (base + ((a - firstBase) * vowels + (b - vowelBase)) * lasts)
  else if base ≤ a ∧ a < base + firsts * vowels * lasts ∧ (a - base) % lasts = 0 ∧
      lastBase < b ∧ b < lastBase + lasts then
    some (a + (b - lastBase))
  else none

end Syllable

/-! ## Taking apart and putting together -/

/-- The two characters that a composite character is made of. -/
def split? (c : Char) : Option (Char × Char) :=
  let parts := match composites.find? fun (_, _, whole) => whole = c.toNat with
    | some (a, b, _) => some (a, b)
    | none => Syllable.split? c.toNat
  parts.map fun (a, b) => (Char.ofNat a, Char.ofNat b)

/-- The composite character that two characters make up. -/
def join? (a b : Char) : Option Char :=
  let whole := match composites.find? fun (x, y, _) => x = a.toNat ∧ y = b.toNat with
    | some (_, _, n) => some n
    | none => Syllable.join? a.toNat b.toNat
  whole.map Char.ofNat

/-- Takes a character apart, and its first part again, up to `depth` times. -/
def apart : (depth : Nat) → Char → List Char
  | 0, c => [c]
  | depth + 1, c =>
    match split? c with
    | some (a, b) => apart depth a ++ [b]
    | none => [c]

/-- No character has more marks than this in it. -/
def depth : Nat := 3

/-- Puts the marks after each letter in the order of their classes; `marks` are those read since the
last letter. -/
def ordered (marks : List Char) : List Char → List Char
  | [] => marks.mergeSort (combiningClass · ≤ combiningClass ·)
  | c :: rest =>
    if combiningClass c = 0 then
      marks.mergeSort (combiningClass · ≤ combiningClass ·) ++ c :: ordered [] rest
    else ordered (marks ++ [c]) rest

/-- Puts a letter together with what follows it.  The marks in `between` did not go onto the letter;
they keep out what has the class of the last of them or a lower one. -/
def together (letter : Char) (between : List Char) : List Char → List Char
  | [] => letter :: between
  | c :: rest =>
    let isKeptOut := between.getLast?.any (combiningClass c ≤ combiningClass ·)
    match if isKeptOut then none else join? letter c with
    | some whole => together whole between rest
    | none =>
      if combiningClass c = 0 then letter :: between ++ together c [] rest
      else together letter (between ++ [c]) rest

/-- The normal form of a text. -/
def composed (text : List Char) : List Char :=
  let parts := ordered [] (text.flatMap (apart depth))
  match parts.dropWhile (combiningClass · ≠ 0) with
  | [] => parts
  | letter :: rest => parts.takeWhile (combiningClass · ≠ 0) ++ together letter [] rest

end ClusterProbe.Domain
