import TezosNode.Url.Percent

/-!
Punycode: a label with characters beyond ASCII as an ASCII one. The ASCII characters stand first, and
after them the others as distances, in a base of 36 whose digits say where a number ends.
-/

namespace TezosNode.Url.Punycode

def digitChar (d : Nat) : Char := Char.ofNat (if d < 26 then 0x61 + d else 0x16 + d)

def digit? (c : Char) : Option Nat :=
  if 'a' ≤ c ∧ c ≤ 'z' then some (c.toNat - 0x61)
  else if 'A' ≤ c ∧ c ≤ 'Z' then some (c.toNat - 0x41)
  else if '0' ≤ c ∧ c ≤ '9' then some (c.toNat - 0x16)
  else none

def threshold (place bias : Nat) : Nat :=
  if place ≤ bias then 1 else if bias + 26 ≤ place then 26 else place - bias

theorem threshold_pos (place bias : Nat) : 1 ≤ threshold place bias := by
  unfold threshold
  repeat' split
  all_goals omega

/-- Divides by 35 down to 455, counting places. -/
def lower (delta place : Nat) : Nat × Nat :=
  if 455 < delta then lower (delta / 35) (place + 36) else (delta, place)
termination_by delta
decreasing_by exact Nat.div_lt_self (by omega) (by omega)

def adapt (delta count : Nat) (first : Bool) : Nat :=
  let scaled := if first then delta / 700 else delta / 2
  let (rest, place) := lower (scaled + scaled / count) 0
  place + 36 * rest / (rest + 38)

def digits (bias place n : Nat) : List Char :=
  let t := threshold place bias
  if n < t then [digitChar n]
  else digitChar (t + (n - t) % (36 - t)) :: digits bias (place + 36) ((n - t) / (36 - t))
termination_by n
decreasing_by
  have := threshold_pos place bias
  exact Nat.lt_of_le_of_lt (Nat.div_le_self _ _) (by omega)

structure Writer where
  out : List Char
  delta : Nat
  bias : Nat
  placed : Nat

def Writer.visit (basic code : Nat) (w : Writer) (c : Char) : Writer :=
  if c.toNat < code then { w with delta := w.delta + 1 }
  else if c.toNat = code then
    { out := w.out ++ digits w.bias 36 w.delta
      delta := 0
      bias := adapt w.delta (w.placed + 1) (w.placed == basic)
      placed := w.placed + 1 }
  else w

def writeCodes (label : List Char) (basic : Nat) : List Nat → Nat → Writer → Writer
  | [], _, w => w
  | code :: codes, next, w =>
    let w := { w with delta := w.delta + (code - next) * (w.placed + 1) }
    let w := label.foldl (Writer.visit basic code) w
    writeCodes label basic codes (code + 1) { w with delta := w.delta + 1 }

def insertCode (n : Nat) : List Nat → List Nat
  | [] => [n]
  | m :: ms => if n < m then n :: m :: ms else if n = m then m :: ms else m :: insertCode n ms

def encode (label : List Char) : List Char :=
  let basic := label.filter isAscii
  let codes := ((label.filter fun c => !isAscii c).map Char.toNat).foldr insertCode []
  let start : Writer := ⟨[], 0, 72, basic.length⟩
  basic ++ (if basic.isEmpty then [] else ['-']) ++ (writeCodes label basic.length codes 128 start).out

def readDigits (bias : Nat) : List Char → Nat → Nat → Nat → Option (Nat × List Char)
  | [], _, _, _ => none
  | c :: cs, place, weight, n => do
    let d ← digit? c
    let t := threshold place bias
    if d < t then pure (n + d * weight, cs)
    else readDigits bias cs (place + 36) (weight * (36 - t)) (n + d * weight)

theorem readDigits_length {bias : Nat} {cs : List Char} {place weight n : Nat}
    {result : Nat × List Char} (h : readDigits bias cs place weight n = some result) :
    result.2.length < cs.length := by
  induction cs generalizing place weight n with
  | nil => simp [readDigits] at h
  | cons c cs ih =>
    simp only [readDigits] at h
    cases eq : digit? c with
    | none => simp [eq] at h
    | some d =>
      simp only [eq, Option.bind_eq_bind, Option.bind_some] at h
      split at h
      · simp only [Option.pure_def, Option.some.injEq] at h
        simp [← h]
      · have := ih h
        simp only [List.length_cons]
        omega

def charOf? (n : Nat) : Option Char :=
  if h : n.isValidChar then some (Char.ofNatAux n h) else none

def placeAll (label : List Char) (place code bias : Nat) (cs : List Char) : Option (List Char) :=
  if cs.isEmpty then some label
  else
    match h : readDigits bias cs 36 1 place with
    | none => none
    | some (n, rest) =>
      have : rest.length < cs.length := readDigits_length h
      let count := label.length + 1
      let code := code + n / count
      match charOf? code with
      | none => none
      | some c =>
        let index := n % count
        placeAll (label.take index ++ c :: label.drop index) (index + 1) code
          (adapt (n - place) count (place == 0)) rest
termination_by cs.length

/-- Splits at the last hyphen; without one all is after it. -/
def atLastHyphen (cs : List Char) : List Char × List Char :=
  let back := cs.reverse
  let rest := back.takeWhile (· != '-')
  ((back.drop (rest.length + 1)).reverse, rest.reverse)

def decode (cs : List Char) : Option (List Char) :=
  let (basic, rest) := atLastHyphen cs
  if basic.all isAscii && (!basic.isEmpty || !cs.contains '-') then placeAll basic 0 128 72 rest else none

end TezosNode.Url.Punycode
