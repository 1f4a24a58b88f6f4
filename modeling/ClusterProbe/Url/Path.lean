import ClusterProbe.Url.Escape

/-!
# Paths

A path is a list of parts.  One point as a part stands for the place itself and two for the place
above it; both are worked out when a path is read.  What looks like the letter of a drive is no
place that can be left.
-/

namespace ClusterProbe.Url.Path

/-- A part of a path, with points in place of percent signs that stand for them. -/
def plainDots : List Char → List Char
  | '%' :: '2' :: e :: rest =>
    if e = 'e' ∨ e = 'E' then '.' :: plainDots rest else '%' :: '2' :: e :: plainDots rest
  | c :: rest => c :: plainDots rest
  | [] => []

def isDrive : List Char → Bool
  | [letter, mark] => letter.isAlpha && (mark = ':' || mark = '|')
  | _ => false

/-- What is left of the parts before a step up, last one first. -/
def above : List (List Char) → List (List Char)
  | [] => []
  | part :: before => if isDrive part then part :: before else before

/-- A part as it is kept.  The letter of a drive at the beginning of the path of a file is followed
by a colon. -/
def kept (isFile isFirst : Bool) (part : List Char) : List Char :=
  if isFile && isFirst && isDrive part then part.take 1 ++ [':'] else part

/-- The parts of a path in order, after the parts `before`, last one first.  Points at the end leave
an empty part. -/
def resolve (isFile : Bool) (before : List (List Char)) : List (List Char) → List (List Char)
  | [] => before.reverse
  | part :: rest =>
    let ending := if rest.isEmpty then [[]] else []
    if plainDots part = ['.', '.'] then resolve isFile (ending ++ above before) rest
    else if plainDots part = ['.'] then resolve isFile (ending ++ before) rest
    else resolve isFile (kept isFile before.isEmpty part :: before) rest

/-- The parts of a text.  Under a scheme that is known a backslash is a slash. -/
def parts (isKnown : Bool) (text : List Char) : List (List Char) :=
  text.splitOnP fun c => c = '/' || (isKnown && c = '\\')

/-- Parts, each after a slash. -/
def text (parts : List (List Char)) : String :=
  escaped notInPath (parts.flatMap ('/' :: ·))

end ClusterProbe.Url.Path
