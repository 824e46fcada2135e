import TezosNode.Decode.Basic
import TezosNode.Body.Extent

/-!
The values of a body that arrives in pieces. A value is handed out as soon as its last byte is there,
and nothing is read ahead. The first answer that is not a value is the last one that tells anything.
A body may be cut off between two values, but not within one.
-/

namespace TezosNode.Body

open Decode Json

inductive Event where
  | chunk (bytes : Bytes)
  | finished
  /-- The body stopped without its proper end. -/
  | cutOff
  | failed (reason : String)
  deriving DecidableEq, Repr, Inhabited

inductive Answer (α : Type) where
  | value (value : α)
  | ended
  | refused (fault : Fault)
  | broken (reason : String)
  | waiting
  deriving Repr, Inhabited

structure Feed where
  pending : Bytes := []
  extent : Extent := .start
  closed : Bool := false
  deriving DecidableEq, Repr, Inhabited

namespace Feed

def start : Feed := {}

def keep (rest : Bytes) : Feed := { pending := rest }

def push (feed : Feed) (bytes : Bytes) : Feed := { feed with pending := feed.pending ++ bytes }

def close (feed : Feed) : Feed := { feed with closed := true }

def isBoundary (b : UInt8) : Bool :=
  Ascii.isJsonBlank b || b == Ascii.quote || b == Ascii.comma || b == Ascii.colon ||
    Extent.isOpener b || Extent.isCloser b

def endsBare : Bytes → Bool
  | [] => true
  | b :: _ => isBoundary b

/-- Reads a bare value off the front of the buffer, as far as it is there. -/
def takeBare (d : Decoder α) (feed : Feed) : Answer α × Feed :=
  if feed.pending.all Ascii.isJsonBlank then (.waiting, start)
  else
    match d.ofFront feed.pending with
    | .ok (a, rest) =>
      if endsBare rest then (.value a, keep rest)
      else (.refused (.malformed .trailingCharacters), feed.close)
    | .error fault =>
      if fault.category = .cutOff then (.waiting, feed) else (.refused fault, feed.close)

def take (d : Decoder α) (feed : Feed) : Answer α × Feed :=
  match feed.extent.resume feed.pending with
  | (extent, .unfinished) =>
    (.waiting, if extent.isIdle then start else { feed with extent := extent })
  | (_, .ends length) =>
    let rest := keep (feed.pending.drop length)
    match d.ofText (feed.pending.take length) with
    | .ok a => (.value a, rest)
    | .error fault => (.refused fault, rest.close)
  | (extent, .bare) => takeBare d { feed with extent := extent }

/-- The body is over: what is left must be blank. -/
def finish (d : Decoder α) (feed : Feed) : Answer α × Feed :=
  if feed.pending.all Ascii.isBlank then (.ended, start.close)
  else
    match d.ofText feed.pending with
    | .ok a => (.value a, start.close)
    | .error fault => (.refused fault, start.close)

def pull (d : Decoder α) (feed : Feed) (events : List Event) : Answer α × Feed × List Event :=
  match take d feed with
  | (.waiting, feed) =>
    match events with
    | [] => (.waiting, feed, [])
    | .chunk bytes :: events => pull d (feed.push bytes) events
    | .finished :: events | .cutOff :: events =>
      let (answer, feed) := feed.finish d
      (answer, feed, events)
    | .failed reason :: events => (.broken reason, feed.close, events)
  | (answer, feed) => (answer, feed, events)

/-- The next value. A feed once closed looks at nothing more. -/
def next (d : Decoder α) (feed : Feed) (events : List Event) : Answer α × Feed × List Event :=
  if feed.closed then (.ended, feed, events) else pull d feed events

def answers (d : Decoder α) (feed : Feed) (events : List Event) : Nat → List (Answer α)
  | 0 => []
  | calls + 1 =>
    let (answer, feed, events) := feed.next d events
    answer :: answers d feed events calls

theorem next_of_closed (d : Decoder α) {feed : Feed} (closed : feed.closed = true)
    (events : List Event) : feed.next d events = (.ended, feed, events) := by
  simp [next, closed]

end Feed

end TezosNode.Body
