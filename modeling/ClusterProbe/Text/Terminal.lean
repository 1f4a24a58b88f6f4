import ClusterProbe.Text.Utf8

/-!
# Text without control sequences

What is left of a text when it is shown without control: terminal control sequences are taken out,
and so are control characters other than blanks.  A blank inside an escape or control sequence is
kept.  In a text that is at hand as a whole it breaks the sequence off; in one that is written to a
stream the sequence goes on with the next character that is not shown.
-/

namespace ClusterProbe.Terminal

/-- Where a text stands with regard to control sequences. -/
inductive State where
  | ground
  | escape
  /-- In an escape sequence of more than one character. -/
  | intermediate
  | control
  | command
  | device
  | parameters
  /-- Among the intermediate characters of a device control string. -/
  | collected
  /-- In the body of a device control string, or in another control string. -/
  | string
deriving DecidableEq, Repr

/-- The octet that ends the body of a control string, also as a part of another character. -/
def terminator : UInt8 := 0x9C

/-- The character is written with the octet that ends the body of a control string. -/
def holdsTerminator (c : Char) : Bool := (Utf8.encode (String.singleton c)).contains terminator

def State.next (state : State) (c : Char) : State :=
  let n := c.toNat
  -- The part of a sequence that a character without a role in it leaves as it is.
  let isIdle : Bool := n < 0x20 || 0x7F ≤ n
  if n = 0x1B then .escape
  else if n = 0x18 ∨ n = 0x1A then .ground
  else match state with
    | .ground => .ground
    | .escape =>
      if isIdle then .escape
      else if n < 0x30 then .intermediate
      else if c = '[' then .control
      else if c = ']' then .command
      else if c = 'P' then .device
      else if c = 'X' ∨ c = '^' ∨ c = '_' then .string
      else .ground
    | .intermediate => if isIdle ∨ n < 0x30 then .intermediate else .ground
    | .control => if isIdle ∨ n < 0x40 then .control else .ground
    | .command => if n = 0x07 then .ground else .command
    | .device =>
      if isIdle then .device
      else if n < 0x30 then .collected
      else if n < 0x40 then .parameters
      else .string
    | .parameters =>
      if isIdle then .parameters
      else if n < 0x30 then .collected
      else if n < 0x3C then .parameters
      else .string
    | .collected => if isIdle ∨ n < 0x30 then .collected else .string
    | .string => if holdsTerminator c then .ground else .string

/-- A blank that is kept even in the middle of a sequence. -/
def isBlank (c : Char) : Bool := c = '\t' || c = '\n' || c = '\x0c' || c = '\r'

def State.shows (state : State) (c : Char) : Bool :=
  match state with
  | .ground => isBlank c || (0x20 ≤ c.toNat && c.toNat ≠ 0x7F)
  | .escape => isBlank c
  | .intermediate => isBlank c
  | .control => isBlank c
  | .command => false
  | .device => false
  | .parameters => false
  | .collected => false
  | .string => false

/-- How a text is at hand. -/
inductive Supply where
  | whole
  | stream
deriving DecidableEq, Repr

/-- The state in which a sequence goes on after a character was shown in it.  On a stream a
character beyond ASCII leaves no sequence open. -/
def Supply.resumed (supply : Supply) (state : State) (c : Char) : State :=
  match supply with
  | .whole => .ground
  | .stream => if c.toNat < 0x80 then state else .ground

/-- The characters that are shown, from a state on.  Once one is, those after it are too, up to the
first that would not be shown outside of sequences: it is taken in the state that was left. -/
def shownFrom (supply : Supply) (state : State) (showing : Bool) : List Char → List Char
  | [] => []
  | c :: cs =>
    if state.shows c || (showing && State.ground.shows c) then
      c :: shownFrom supply (supply.resumed state c) true cs
    else shownFrom supply (state.next c) false cs

def shown (supply : Supply) (text : String) : String :=
  String.ofList (shownFrom supply .ground false text.toList)

def firstLine (text : String) : String := String.ofList (text.toList.takeWhile (· ≠ '\n'))

end ClusterProbe.Terminal
