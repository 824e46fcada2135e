import TezosNode.Decimal.Fixed

namespace TezosNode.Time

structure Duration where
  nanoseconds : Nat
  deriving DecidableEq, Repr, Inhabited

namespace Duration

def ofMilliseconds (n : Nat) : Duration := ⟨n * 1000000⟩

def fraction (unit rest : Nat) : List Char :=
  if rest = 0 then []
  else
    let digits := Nat.toDigits 10 rest
    let places := List.replicate ((Nat.toDigits 10 unit).length - 1 - digits.length) '0' ++ digits
    '.' :: ((places.reverse.dropWhile (· == '0')).reverse)

def inUnit (unit : Nat) (name : String) (n : Nat) : String :=
  String.ofList (Nat.toDigits 10 (n / unit) ++ fraction unit (n % unit)) ++ name

def text (d : Duration) : String :=
  let n := d.nanoseconds
  if 1000000000 ≤ n then inUnit 1000000000 "s" n
  else if 1000000 ≤ n then inUnit 1000000 "ms" n
  else if 1000 ≤ n then inUnit 1000 "µs" n
  else inUnit 1 "ns" n

/-- The length in seconds as a double, the whole seconds and the rest each rounded on its own. -/
def seconds (d : Duration) : Float :=
  Float.ofNat (d.nanoseconds / 1000000000) + Float.ofNat (d.nanoseconds % 1000000000) / 1000000000.0

def secondsText (d : Duration) : String := Decimal.fixedText 6 d.seconds.toBits

end Duration

end TezosNode.Time
