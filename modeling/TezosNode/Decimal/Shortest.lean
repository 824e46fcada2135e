import TezosNode.Decimal.Power

/-!
The fewest decimal digits that read back as a given double, and of those the nearest ones. A double is
taken apart into `m * 2 ^ q`; the reals that round to it make an interval, whose ends count when `m`
is even. A grid of `n` digits has a point in the interval only if one of the two grid neighbours of
the value lies there.
-/

namespace TezosNode.Decimal

/-- A finite double other than zero: `significand * 2 ^ exponent`. -/
structure Binary where
  significand : Nat
  exponent : Int
  deriving DecidableEq, Repr

/-- `digits * 10 ^ exponent`. -/
structure Scaled where
  digits : Nat
  exponent : Int
  deriving DecidableEq, Repr

namespace Binary

def ofBits (bits : UInt64) : Binary :=
  let fraction := bits.toNat % twoTo 52
  let biased : Nat := bits.toNat / twoTo 52 % twoTo 11
  if biased = 0 then ⟨fraction, -1074⟩ else ⟨twoTo 52 + fraction, (biased : Int) - 1075⟩

structure Interval where
  low : Nat
  value : Nat
  high : Nat
  denominator : Nat
  closed : Bool

def interval (x : Binary) : Interval :=
  let below := if x.significand = twoTo 52 && -1074 < x.exponent then 1 else 2
  let up := twoTo (x.exponent - 2).toNat
  ⟨(4 * x.significand - below) * up, 4 * x.significand * up, (4 * x.significand + 2) * up,
    twoTo (2 - x.exponent).toNat, x.significand % 2 = 0⟩

end Binary

namespace Binary.Interval

def contains (i : Interval) (n : Nat) (exponent : Int) : Bool :=
  let point := n * tenTo exponent.toNat * i.denominator
  let scale := tenTo (-exponent).toNat
  if i.closed then i.low * scale ≤ point && point ≤ i.high * scale
  else i.low * scale < point && point < i.high * scale

def floor (i : Interval) (exponent : Int) : Nat :=
  i.value * tenTo (-exponent).toNat / (i.denominator * tenTo exponent.toNat)

/-- Whether the value is nearer to the grid point `n` than to the next one; of two as near, the even
one. -/
def isNearer (i : Interval) (n : Nat) (exponent : Int) : Bool :=
  let scale := tenTo (-exponent).toNat
  let unit := i.denominator * tenTo exponent.toNat
  2 * (i.value * scale) < (2 * n + 1) * unit ||
    (2 * (i.value * scale) == (2 * n + 1) * unit && n % 2 == 0)

def onGrid (i : Interval) (exponent : Int) : Option Nat :=
  let n := i.floor exponent
  match i.contains n exponent, i.contains (n + 1) exponent with
  | true, true => some (if i.isNearer n exponent then n else n + 1)
  | true, false => some n
  | false, true => some (n + 1)
  | false, false => none

def search (i : Interval) (exponent : Int) : Nat → Scaled
  | 0 => ⟨i.floor exponent, exponent⟩
  | tries + 1 =>
    match i.onGrid exponent with
    | some n => ⟨n, exponent⟩
    | none => search i (exponent - 1) tries

end Binary.Interval

def dropZeros : Nat → Nat → Int → Scaled
  | 0, n, exponent => ⟨n, exponent⟩
  | tries + 1, n, exponent =>
    if n % 10 = 0 then dropZeros tries (n / 10) (exponent + 1) else ⟨n, exponent⟩

def leadingExponent (i : Binary.Interval) : Int :=
  if i.denominator ≤ i.value then (Nat.toDigits 10 (i.value / i.denominator)).length - 1
  else Int.negOfNat (Nat.toDigits 10 ((i.denominator - 1) / i.value)).length

/-- The shortest decimal of a finite double other than zero. -/
def shortest (bits : UInt64) : Scaled :=
  let i := (Binary.ofBits bits).interval
  let found := i.search (leadingExponent i) 18
  dropZeros 18 found.digits found.exponent

end TezosNode.Decimal
