import TezosNode.Text.Bytes

/-!
Where the first value of a buffer ends. Only brackets and quotes are watched, so that every byte is
looked at once, however the buffer is filled. A value in brackets or quotes ends with its last byte.
A bare value, a number or a literal, shows no end of its own.
-/

namespace TezosNode.Body

structure Extent where
  seen : Nat := 0
  depth : Nat := 0
  quoted : Bool := false
  escaped : Bool := false
  deriving DecidableEq, Repr, Inhabited

namespace Extent

def start : Extent := {}

inductive Report where
  /-- The first value has so many bytes, the blanks before it included. -/
  | ends (length : Nat)
  | unfinished
  /-- The first value is a number, a literal or no value at all. -/
  | bare
  deriving DecidableEq, Repr, Inhabited

inductive Step where
  | next (extent : Extent)
  | stop (extent : Extent) (report : Report)
  deriving DecidableEq, Repr, Inhabited

def isOpener (b : UInt8) : Bool := b == Ascii.openBrace || b == Ascii.openBracket

def isCloser (b : UInt8) : Bool := b == Ascii.closeBrace || b == Ascii.closeBracket

def stepQuoted (e : Extent) (b : UInt8) : Step :=
  let on := { e with seen := e.seen + 1 }
  if e.escaped then .next { on with escaped := false }
  else if b == Ascii.backslash then .next { on with escaped := true }
  else if b == Ascii.quote then
    let closed := { on with quoted := false }
    if e.depth = 0 then .stop closed (.ends closed.seen) else .next closed
  else .next on

/-- One byte outside quotes. A closer without an opener ends the value too, for the reader to refuse. -/
def stepPlain (e : Extent) (b : UInt8) : Step :=
  let on := { e with seen := e.seen + 1 }
  if b == Ascii.quote then .next { on with quoted := true }
  else if isOpener b then .next { on with depth := e.depth + 1 }
  else if isCloser b then
    if e.depth ≤ 1 then .stop on (.ends on.seen) else .next { on with depth := e.depth - 1 }
  else if Ascii.isBlank b then .next on
  else if e.depth = 0 then .stop e .bare
  else .next on

def step (e : Extent) (b : UInt8) : Step :=
  if e.quoted then e.stepQuoted b else e.stepPlain b

def scan (e : Extent) : Bytes → Extent × Report
  | [] => (e, .unfinished)
  | b :: bs =>
    match e.step b with
    | .next e => scan e bs
    | .stop e report => (e, report)

def resume (e : Extent) (buffer : Bytes) : Extent × Report := e.scan (buffer.drop e.seen)

def isIdle (e : Extent) : Bool := e.depth == 0 && !e.quoted

end Extent

end TezosNode.Body
