import TezosNode.Json.Document

/-!
Reading a string byte by byte, from the byte after its opening quote. Escapes, control characters and
the closing quote are settled for used and skipped strings alike; surrogates are paired and UTF-8 is
checked only in the text of a used one.
-/

namespace TezosNode.Json

inductive QuotePhase where
  | plain
  | escape
  | hex (digits : List UInt8)
  deriving DecidableEq, Repr, Inhabited

structure Quote where
  phase : QuotePhase := .plain
  bytes : Except Malformed Bytes := .ok []
  /-- A leading surrogate that waits for its other half. -/
  high : Option Nat := none

namespace Quote

inductive Step where
  | more (quote : Quote)
  | closed (literal : Literal)
  | failed (literal : Literal)

def push (q : Quote) (b : UInt8) : Quote :=
  { q with bytes := q.bytes.map (b :: ·) }

def pushChar (q : Quote) (c : Char) : Quote :=
  { q with bytes := q.bytes.map ((String.utf8EncodeChar c).reverse ++ ·) }

def spoil (q : Quote) (fault : Malformed) : Quote :=
  { q with bytes := q.bytes.bind fun _ => .error fault, high := none }

def fail (q : Quote) (fault : Malformed) : Literal :=
  ⟨q.bytes.bind fun _ => .error fault, .error fault⟩

def cutOff (q : Quote) : Literal := q.fail .stringCutOff

def close (q : Quote) : Literal :=
  ⟨q.bytes.bind fun bytes =>
    match Bytes.text? bytes.reverse with
    | some text => .ok text
    | none => .error .badUnicode, .ok ()⟩

def escaped? (b : UInt8) : Option UInt8 :=
  if b = 0x22 ∨ b = 0x5C ∨ b = 0x2F then some b
  else if b = 0x62 then some 0x08
  else if b = 0x66 then some 0x0C
  else if b = 0x6E then some 0x0A
  else if b = 0x72 then some 0x0D
  else if b = 0x74 then some 0x09
  else none

/-- A leading surrogate is followed by another escape or else the text is at fault. -/
def settle (q : Quote) (wanted : Bool) : Quote :=
  if q.high.isSome && !wanted then q.spoil .openSurrogate else q

def pushUnit (q : Quote) (unit : Nat) : Quote :=
  match q.high with
  | some high =>
    if 0xDC00 ≤ unit ∧ unit ≤ 0xDFFF then
      { q.pushChar (Char.ofNat (0x10000 + (high - 0xD800) * 0x400 + (unit - 0xDC00))) with high := none }
    else q.spoil .loneSurrogate
  | none =>
    if 0xDC00 ≤ unit ∧ unit ≤ 0xDFFF then q.spoil .loneSurrogate
    else if 0xD800 ≤ unit ∧ unit ≤ 0xDBFF then { q with high := some unit }
    else q.pushChar (Char.ofNat unit)

def hexUnit? (digits : List UInt8) : Option Nat :=
  digits.foldlM (fun n b => (Ascii.hexDigit? b).map (n * 16 + ·)) 0

def step (q : Quote) (b : UInt8) : Step :=
  match q.phase with
  | .plain =>
    let q := q.settle (b = Ascii.backslash)
    if b = Ascii.quote then .closed q.close
    else if b = Ascii.backslash then .more { q with phase := .escape }
    else if b < 0x20 then .failed (q.fail .controlCharacter)
    else .more (q.push b)
  | .escape =>
    let q := q.settle (b = 0x75)
    if b = 0x75 then .more { q with phase := .hex [] }
    else match escaped? b with
      | some c => .more { q.push c with phase := .plain }
      | none => .failed (q.fail .badEscape)
  | .hex digits =>
    let digits := digits ++ [b]
    if digits.length < 4 then .more { q with phase := .hex digits }
    else match hexUnit? digits with
      | some unit => .more { q.pushUnit unit with phase := .plain }
      | none => .failed (q.fail .badEscape)

end Quote

end TezosNode.Json
