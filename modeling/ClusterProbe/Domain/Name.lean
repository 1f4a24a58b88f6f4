import ClusterProbe.Domain.Label

/-!
# Domains

A domain is written in ASCII before it is looked up.  All the ways to write one domain come out the
same.
-/

namespace ClusterProbe.Domain

/-- The labels of a domain, its characters read and brought into normal form. -/
def labels? (text : List Char) : Option (List (List Char)) :=
  (text.mapM reading?).map fun readings => (composed readings.flatten).splitOn '.'

def ascii? (text : List Char) : Option (List Char) := do
  let labels ← labels? text
  let meanings ← labels.mapM meaning?
  if !meanings.all isSound then none
  else if meanings.any isRightward ∧ !meanings.all directionFits then none
  else (labels.mapM encoded?).map ((['.'] : List Char).intercalate ·)

end ClusterProbe.Domain
