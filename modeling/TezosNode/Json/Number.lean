/-!
Numbers of JSON texts. A numeral is what is written; a number is what is kept of it: an integer of
64 bits, signed or not, or else the bits of a double.
-/

namespace TezosNode.Json

inductive Number where
  | integer (value : Int)
  | double (bits : UInt64)
  deriving DecidableEq, Repr, Inhabited

structure Numeral where
  negative : Bool := false
  whole : List Nat := []
  fraction : List Nat := []
  exponent : Option (Bool × List Nat) := none
  deriving DecidableEq, Repr, Inhabited

namespace Numeral

/-- Takes digits into the significand while it fits 64 bits; gives back the digits left over. -/
def accumulate (significand : Nat) : List Nat → Nat × List Nat
  | [] => (significand, [])
  | d :: ds =>
    if significand * 10 + d < 18446744073709551616 then accumulate (significand * 10 + d) ds
    else (significand, d :: ds)

def natural (digits : List Nat) : Nat := digits.foldl (fun n d => n * 10 + d) 0

def powerOfTen (exponent : Nat) : Float := Float.ofScientific 1 false exponent

/-- A significand times a power of ten in double arithmetic, rounded once per factor. Factors past
`10 ^ 308` are applied in two steps, and after two of them nothing is left. -/
def scale (significand : Nat) (exponent : Int) : Option Float :=
  let value := Float.ofNat significand
  if 308 < exponent then if significand = 0 then some value else none
  else if 0 ≤ exponent then
    let scaled := value * powerOfTen exponent.toNat
    if scaled.isInf then none else some scaled
  else if -308 ≤ exponent then some (value / powerOfTen exponent.natAbs)
  else if -616 ≤ exponent then
    some (value / powerOfTen 308 / powerOfTen (exponent.natAbs - 308))
  else some 0

/-- An exponent past 32 bits leaves only zero or nothing, whatever the digits. -/
def scaleBy (significand : Nat) (start : Int) : Option (Bool × List Nat) → Option Float
  | none => scale significand start
  | some (negative, digits) =>
    let exponent := natural digits
    if 2147483648 ≤ exponent then if significand ≠ 0 && !negative then none else some 0
    else scale significand (if negative then start - exponent else start + exponent)

def signed (negative : Bool) (value : Float) : Number :=
  .double (if negative then -value else value).toBits

def number? (n : Numeral) : Option Number :=
  let (whole, dropped) := accumulate 0 n.whole
  if n.fraction.isEmpty && n.exponent.isNone && dropped.isEmpty then
    if !n.negative then some (.integer whole)
    else if 0 < whole ∧ whole ≤ 9223372036854775808 then some (.integer (-whole))
    else some (signed true (Float.ofNat whole))
  else
    let (significand, unread) := accumulate whole n.fraction
    let start : Int := dropped.length - (n.fraction.length - unread.length : Nat)
    (scaleBy significand start n.exponent).map (signed n.negative)

end Numeral

end TezosNode.Json
