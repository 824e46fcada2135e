import TezosNode.Url.Fault
import TezosNode.Url.Pieces
import TezosNode.Url.Percent

namespace TezosNode.Url

def digitsIn (base : Nat) (cs : List Char) : Option Nat :=
  cs.foldlM (fun n c =>
    match Ascii.hexDigit? (UInt8.ofNat c.toNat) with
    | some d => if isAscii c && d < base then some (n * base + d) else none
    | none => none) 0

def ipv4Part : List Char → Option Nat
  | [] => none
  | '0' :: 'x' :: digits | '0' :: 'X' :: digits => digitsIn 16 digits
  | ['0'] => some 0
  | '0' :: digits => digitsIn 8 digits
  | digits => digitsIn 10 digits

def isDot (c : Char) : Bool := c == '.'

def dropEmptyLast (parts : List (List Char)) : List (List Char) :=
  if parts.getLast? = some [] then parts.dropLast else parts

def endsInNumber (host : List Char) : Bool :=
  match (dropEmptyLast (pieces isDot host)).getLast? with
  | some last => (digitsIn 10 last).isSome && !last.isEmpty || (ipv4Part last).isSome
  | none => false

/-- The places of the parts before the last one, from the highest. -/
def placesFrom (place : Nat) : List Nat → Nat
  | [] => 0
  | part :: parts => part * Nat.pow 256 place + placesFrom (place - 1) parts

def ipv4OfParts (parts : List Nat) : Option Nat :=
  match parts.getLast? with
  | none => none
  | some last =>
    let front := parts.dropLast
    if front.all (· < 256) && last < Nat.pow 256 (4 - front.length) then some (placesFrom 3 front + last)
    else none

def readIpv4 (host : List Char) : Except UrlFault UInt32 :=
  let parts := dropEmptyLast (pieces isDot host)
  if parts.length > 4 then .error .badIpv4
  else
    match parts.mapM ipv4Part >>= ipv4OfParts with
    | some n => .ok (.ofNat n)
    | none => .error .badIpv4

def ipv4Text (address : UInt32) : List Char :=
  let n := address.toNat
  joined '.' ([n / 16777216, n / 65536 % 256, n / 256 % 256, n % 256].map (Nat.toDigits 10))

end TezosNode.Url
