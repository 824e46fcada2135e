/-!
Decimal integers as text: an optional sign and ASCII digits, within bounds. Digits are taken from the
left, so of two faults the first one met is reported.
-/

namespace TezosNode.Text

inductive IntegerFault where
  | empty
  | badDigit
  | tooLarge
  | tooSmall
  deriving DecidableEq, Repr, Inhabited

namespace IntegerFault

def message : IntegerFault → String
  | empty => "cannot parse integer from empty string"
  | badDigit => "invalid digit found in string"
  | tooLarge => "number too large to fit in target type"
  | tooSmall => "number too small to fit in target type"

end IntegerFault

def digit? (c : Char) : Option Nat :=
  if '0' ≤ c ∧ c ≤ '9' then some (c.toNat - '0'.toNat) else none

def readDigits (limit : Nat) (fault : IntegerFault) (count : Nat) : List Char → Except IntegerFault Nat
  | [] => .ok count
  | c :: cs =>
    match digit? c with
    | none => .error .badDigit
    | some d =>
      if count * 10 + d ≤ limit then readDigits limit fault (count * 10 + d) cs else .error fault

def readInteger (below above : Nat) : List Char → Except IntegerFault Int
  | [] => .error .empty
  | ['+'] | ['-'] => .error .badDigit
  | '+' :: digits => (readDigits above .tooLarge 0 digits).map Int.ofNat
  | '-' :: digits => (readDigits below .tooSmall 0 digits).map fun n => -Int.ofNat n
  | digits => (readDigits above .tooLarge 0 digits).map Int.ofNat

/-- A natural number up to `above`; a minus sign is no digit. -/
def readNatural (above : Nat) : List Char → Except IntegerFault Nat
  | [] => .error .empty
  | ['+'] => .error .badDigit
  | '+' :: digits | digits => readDigits above .tooLarge 0 digits

def readInt64 (s : String) : Except IntegerFault Int := 
  readInteger 9223372036854775808 9223372036854775807 s.toList

end TezosNode.Text
