import ClusterProbe.Domain.Composition
import ClusterProbe.Domain.Direction
import ClusterProbe.Domain.Joining
import ClusterProbe.Domain.Punycode
import ClusterProbe.Domain.Reading

/-!
# Labels

The parts of a domain between its points.  A label with characters beyond ASCII is written with
ASCII characters after `xn--`.  It must not begin with a mark, must have invisible joiners only
where they change how a word looks, and, if the domain has letters that are written from right to
left, must show by itself which way it goes.
-/

namespace ClusterProbe.Domain

def isForbidden (c : Char) : Bool :=
  c.toNat ≤ 0x20 || c.toNat = 0x7F ||
    ['%', '#', '/', ':', '<', '>', '?', '@', '[', '\\', ']', '^', '|'].contains c

def isAscii (label : List Char) : Bool := label.all (·.toNat < 0x80)

/-! ## Marked labels -/

/-- What a label begins with that stands for characters beyond ASCII. -/
def marker : List Char := ['x', 'n', '-', '-']

/-- What a marked label stands for.  It must be a text in normal form of characters that stand for
themselves, and not too long. -/
def decoded? (code : List Char) : Option (List Char) := do
  if code.isEmpty ∨ code.getLast? = some '-' ∨ 2000 < code.length then none
  else
    let label ← Punycode.decode? code
    if label.all isSettled ∧ composed label = label ∧ !marker.isPrefixOf label then some label
    else none

/-- What a label stands for. -/
def meaning? (label : List Char) : Option (List Char) :=
  if marker.isPrefixOf label then decoded? (label.drop marker.length) else some label

/-- A label in ASCII; one that is too long is not written. -/
def encoded? (label : List Char) : Option (List Char) :=
  if isAscii label then some label
  else if label.length ≤ 1000 then some (marker ++ Punycode.encode label)
  else none

/-! ## Joiners -/

/-- The mark takes the vowel from the letter before it.  After it a joiner says how the letter goes
together with the next one. -/
def isVirama (c : Char) : Bool := combiningClass c = 9

/-- The joiners of a label are where they may be: after a virama, and the one that keeps letters
apart also between two that would be joined.  The characters before are `before`, last one first. -/
def joinersFit (before : List Char) : List Char → Bool
  | [] => true
  | c :: rest =>
    let fits :=
      match c with
      | '\u200C' =>
        before.head?.any isVirama ||
          ((before.find? (!isCrossed ·)).any joinsForth &&
            (rest.find? (!isCrossed ·)).any joinsBack)
      | '\u200D' => before.head?.any isVirama
      | _ => true
    fits && joinersFit (c :: before) rest

/-! ## Directions -/

/-- The label has characters that are written from right to left. -/
def isRightward (label : List Char) : Bool :=
  (label.map direction).any fun d => d = .right || d = .arabic

/-- The label shows by its ends which way it goes, and has no letters that go the other way. -/
def directionFits (label : List Char) : Bool :=
  let ds := label.map direction
  let last := ds.reverse.find? (· ≠ .mark)
  match ds.head? with
  | none => true
  | some .left =>
    ds.all (fun d => d ≠ .right && d ≠ .arabic) &&
      (last = some .left || last = some .european)
  | some .right =>
    !ds.contains .left && !(ds.contains .european && ds.contains .arabic) &&
      (last = some .right || last = some .european || last = some .arabic)
  | some _ => false

/-! ## Checks -/

/-- What a label stands for is fit for a domain, its direction aside. -/
def isSound (label : List Char) : Bool :=
  !label.any isForbidden && !label.head?.any isMark && joinersFit [] label

end ClusterProbe.Domain
