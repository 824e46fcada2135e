import TezosNode.Decimal.Power
import TezosNode.Time.Instant
import TezosNode.Text.Blank
import TezosNode.Text.Integer

/-!
Reading a date and time in the relaxed form of RFC 3339: fields may have fewer digits than usual and
blanks around them, the offset may be `Z`, `UTC` or hours and minutes, and the time is moved to UTC.
-/

namespace TezosNode.Time

open Text

inductive InstantFault where
  | invalid
  | tooShort
  | tooLong
  | outOfRange
  | impossible
  deriving DecidableEq, Repr, Inhabited

namespace InstantFault

def message : InstantFault → String
  | invalid => "input contains invalid characters"
  | tooShort => "premature end of input"
  | tooLong => "trailing input"
  | outOfRange => "input is out of range"
  | impossible => "no possible date and time matching input"

end InstantFault

abbrev Taking := StateT (List Char) (Except InstantFault)

def isDigit (c : Char) : Bool := (digit? c).isSome

def skipBlanks : Taking Unit := modify trimStart

def takeNumber (most : Option Nat) : Taking Nat := do
  match ← get with
  | [] => throw .tooShort
  | c :: cs =>
    if !isDigit c then throw .invalid
    let digits := match most with
      | some n => ((c :: cs).take n).takeWhile isDigit
      | none => (c :: cs).takeWhile isDigit
    let value := digits.foldl (fun n c => n * 10 + (digit? c).getD 0) 0
    if 9223372036854775808 ≤ value then throw .outOfRange
    set ((c :: cs).drop digits.length)
    pure value

def takeSeparator (mark : Char) : Taking Unit := do
  skipBlanks
  match ← get with
  | [] => throw .tooShort
  | c :: cs => if c = mark then set cs else throw .invalid

def takeField (low high : Nat) : Taking Nat := do
  skipBlanks
  let n ← takeNumber (some 2)
  if low ≤ n ∧ n ≤ high then pure n else throw .outOfRange

/-- Four digits at most, or a sign and any number of them. -/
def takeYear : Taking Int := do
  skipBlanks
  let year : Int ← match ← get with
    | '-' :: cs => do
      set cs
      pure (-(← takeNumber none : Int))
    | '+' :: cs => do
      set cs
      pure (← takeNumber none : Int)
    | _ => do pure (← takeNumber (some 4) : Int)
  if -2147483648 ≤ year ∧ year < 2147483648 then pure year else throw .outOfRange

def takeDate : Taking Date := do
  let year ← takeYear
  takeSeparator '-'
  let month ← takeField 1 12
  takeSeparator '-'
  let day ← takeField 1 31
  pure ⟨year, month, day⟩

def takeFraction : Taking Nat := do
  match ← get with
  | '.' :: cs => do
    set cs
    let n ← takeNumber (some 9)
    let count := cs.length - (← get).length
    modify (·.dropWhile isDigit)
    pure (n * Decimal.tenTo (9 - count))
  | _ => pure 0

/-- Seconds of the day and nanoseconds. Second 60 is a leap second in any minute. -/
def takeTime : Taking (Nat × Nat) := do
  let hour ← takeField 0 23
  takeSeparator ':'
  let minute ← takeField 0 59
  takeSeparator ':'
  let second ← takeField 0 60
  let nano ← takeFraction
  skipBlanks
  let seconds := hour * 3600 + minute * 60
  if second = 60 then pure (seconds + 59, nano + 1000000000) else pure (seconds + second, nano)

/-- Exactly two digits, the first of them at most `most`. A character past ASCII fills both places. -/
def takeTwo (most : Nat) : Taking Nat := do
  match ← get with
  | [] => throw .tooShort
  | [c] => throw (if c.toNat < 0x80 then .tooShort else .invalid)
  | a :: b :: cs =>
    match digit? a, digit? b with
    | some h, some l =>
      if most < h then throw .outOfRange
      set cs
      pure (h * 10 + l)
    | _, _ => throw .invalid

def takeOffset : Taking Int := do
  match ← get with
  | [] => throw .tooShort
  | c :: cs =>
    if ((c :: cs).take 3).map Char.toLower = ['u', 't', 'c'] then
      set ((c :: cs).drop 3)
      pure 0
    else if c = 'Z' ∨ c = 'z' then
      set cs
      pure 0
    else if c = '+' ∨ c = '-' ∨ c = '−' then
      set cs
      let hours ← takeTwo 9
      modify (·.dropWhile fun c => c = ':' || isBlank c)
      let minutes ← takeTwo 5
      let offset : Int := (hours * 60 + minutes) * 60
      pure (if c = '+' then offset else -offset)
    else throw .invalid

def takeDateMark : Taking Unit := do
  match ← get with
  | [] => throw .tooShort
  | c :: cs => if c = 'T' ∨ c = 't' ∨ c = ' ' then set cs else throw .invalid

def takeInstant : Taking Instant := do
  let date ← takeDate
  takeDateMark
  let (seconds, nano) ← takeTime
  let offset ← takeOffset
  skipBlanks
  if !(← get).isEmpty then throw .tooLong
  if !date.isValid then throw .outOfRange
  if 86400 ≤ offset.natAbs then throw .outOfRange
  let second := date.toDays * 86400 + seconds - offset
  if Date.inRange (Date.ofDays (second / 86400)).year then pure ⟨second, nano⟩ else throw .impossible

def Instant.read (s : String) : Except InstantFault Instant := takeInstant.run' s.toList

end TezosNode.Time
