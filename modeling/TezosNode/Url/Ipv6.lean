import TezosNode.Url.Ipv4

namespace TezosNode.Url

def ipv6Group (cs : List Char) : Option UInt16 :=
  if cs.isEmpty || cs.length > 4 then none else (digitsIn 16 cs).map UInt16.ofNat

def ipv6Octet (cs : List Char) : Option Nat :=
  if cs.isEmpty || cs.length > 3 || (cs.length > 1 && cs.head? = some '0') then none
  else (digitsIn 10 cs).filter (· < 256)

def ipv6Tail (cs : List Char) : Option (List UInt16) :=
  match (pieces isDot cs).mapM ipv6Octet with
  | some [a, b, c, d] => some [.ofNat (a * 256 + b), .ofNat (c * 256 + d)]
  | _ => none

def ipv6Groups : List (List Char) → Option (List UInt16)
  | [] => some []
  | [last] => if last.contains '.' then ipv6Tail last else (ipv6Group last).map ([·])
  | piece :: rest => do
    let group ← ipv6Group piece
    let groups ← ipv6Groups rest
    pure (group :: groups)

def atDoubleColon : List Char → Option (List Char × List Char)
  | ':' :: ':' :: rest => some ([], rest)
  | c :: cs => (atDoubleColon cs).map fun (front, rest) => (c :: front, rest)
  | [] => none

def isColon (c : Char) : Bool := c == ':'

def colonPieces (cs : List Char) : List (List Char) := if cs.isEmpty then [] else pieces isColon cs

def ipv6Of (cs : List Char) : Option (List UInt16) :=
  match atDoubleColon cs with
  | none => (ipv6Groups (pieces isColon cs)).filter (·.length = 8)
  | some (front, rest) => do
    let front ← (colonPieces front).mapM ipv6Group
    let rest ← ipv6Groups (colonPieces rest)
    let count := front.length + rest.length
    if count < 8 then some (front ++ List.replicate (8 - count) 0 ++ rest) else none

def readIpv6 (cs : List Char) : Except UrlFault (List UInt16) :=
  match ipv6Of cs with
  | some groups => .ok groups
  | none => .error .badIpv6

/-- Where the longest run of zeros begins, and its length; of two, the first. -/
def longestZeros (start : Nat) : List UInt16 → Nat × Nat
  | [] => (start, 0)
  | group :: groups =>
    let here := ((group :: groups).takeWhile (· == 0)).length
    let later := longestZeros (start + 1) groups
    if here < later.2 then later else (start, here)

def ipv6Text (groups : List UInt16) : List Char :=
  let written := fun groups : List UInt16 => joined ':' (groups.map fun g => Nat.toDigits 16 g.toNat)
  let (start, length) := longestZeros 0 groups
  if length < 2 then written groups
  else written (groups.take start) ++ ':' :: ':' :: written (groups.drop (start + length))

end TezosNode.Url
