import TezosNode.Decode.Basic
import TezosNode.Text.Blank

/-!
Amounts: signed integers of 128 bits that the node writes as strings, such as mutez, fees, counters
and gas.
-/

namespace TezosNode

open Decode Json

/-- The first integer past all amounts, and the negative of the least one. -/
def Amount.limit : Nat := 170141183460469231731687303715884105728

structure Amount where
  value : Int
  low : -Amount.limit ≤ value
  high : value < Amount.limit
  deriving DecidableEq, Repr

namespace Amount

instance : Inhabited Amount := ⟨0, by decide, by decide⟩

def zero : Amount := ⟨0, by decide, by decide⟩

def ofInt? (n : Int) : Option Amount :=
  if h : -limit ≤ n ∧ n < limit then some ⟨n, h.1, h.2⟩ else none

def ofInt64 (n : Int64) : Amount :=
  ⟨n.toInt, by have := n.le_toInt; unfold limit; omega, by have := n.toInt_lt; unfold limit; omega⟩

def isZero (a : Amount) : Bool := a.value = 0

def add? (a b : Amount) : Option Amount := ofInt? (a.value + b.value)

inductive Overflow where
  | overflow
  deriving DecidableEq, Repr, Inhabited

def Overflow.message : Overflow → String
  | overflow => "attempt to add with overflow"

def word (a : Amount) : BitVec 128 := .ofInt 128 a.value

def ofWord (w : BitVec 128) : Amount := ⟨w.toInt, w.le_toInt, w.toInt_lt⟩

/-- The sum of the words, which stops at an overflow. -/
def add (a b : Amount) : Except Overflow Amount :=
  if a.word.saddOverflow b.word then .error .overflow else .ok (ofWord (a.word + b.word))

def sum (amounts : List Amount) : Except Overflow Amount := amounts.foldlM add zero

def text (a : Amount) : String := toString a.value

def read (s : String) : Except Text.IntegerFault Amount := do
  let n ← Text.readInteger limit (limit - 1) (Text.trim s.toList)
  match ofInt? n with
  | some amount => pure amount
  | none => throw .tooLarge

def decoder : Decoder Amount := Decoder.fromText fun s => (read s).mapError .integer

def toValue (a : Amount) : Value := .string a.text

theorem ofInt?_eq_some_iff {n : Int} {a : Amount} : ofInt? n = some a ↔ a.value = n := by
  unfold ofInt?
  constructor
  · intro h
    split at h
    · cases Option.some.inj h; rfl
    · cases h
  · rintro rfl
    rw [dif_pos ⟨a.low, a.high⟩]

theorem add?_eq_some_iff {a b c : Amount} : add? a b = some c ↔ c.value = a.value + b.value :=
  ofInt?_eq_some_iff

end Amount

end TezosNode
