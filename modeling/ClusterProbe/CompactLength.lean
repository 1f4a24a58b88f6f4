/-!
# Compact lengths

A length below `2 ^ 16` is written in one to three octets, seven bits in each, lowest bits first;
the top bit of an octet says that another one follows.
-/

namespace ClusterProbe.CompactLength

/-- Lengths from here on have no compact form. -/
def limit : Nat := UInt16.size

def encode (n : Nat) : List UInt8 :=
  if n < 128 then [UInt8.ofNat n] else UInt8.ofNat (n % 128 + 128) :: encode (n / 128)
termination_by n

/-- A list's length and then the list itself. -/
def encodeList (octets : List UInt8) : List UInt8 := encode octets.length ++ octets

end ClusterProbe.CompactLength
