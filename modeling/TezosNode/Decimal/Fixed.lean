import TezosNode.Decimal.Shortest

namespace TezosNode.Decimal

/-- A quotient as the nearest integer; a half goes to the even neighbour. -/
def roundDiv (n d : Nat) : Nat :=
  let floor := n / d
  let rest := n % d
  if d < 2 * rest || (2 * rest == d && floor % 2 == 1) then floor + 1 else floor

def inPlaces (places : Nat) (bits : UInt64) : Nat :=
  let x := Binary.ofBits bits
  roundDiv (x.significand * twoTo x.exponent.toNat * tenTo places) (twoTo (-x.exponent).toNat)

def withPoint (places n : Nat) : List Char :=
  let digits := Nat.toDigits 10 (n % tenTo places)
  Nat.toDigits 10 (n / tenTo places) ++ '.' :: List.replicate (places - digits.length) '0' ++ digits

def fixedText (places : Nat) (bits : UInt64) : String :=
  String.ofList (withPoint places (inPlaces places bits))

end TezosNode.Decimal
