import TezosNode.Decode.Basic

/-!
Records: objects with named fields, or lists of the fields in order. Fields are decoded as they are
met, a field may stand once, keys without a field are passed over, and fields that are absent are
looked for after that in the order of declaration.

A flattened record takes the keys that its own fields leave over: they are buffered as they are met
and decoded last.
-/

namespace TezosNode.Decode

open Json

structure Fields (α : Type) where
  Slots : Type
  names : List String
  blank : Slots
  /-- Decodes a member into its slot; `none` for a key without a field. -/
  put : Source → Slots → String → Document → Option (Except Fault Slots)
  finish : Slots → Except Fault α
  /-- Takes the fields off the front of a list. The fault given is that of a list too short, by how
  many items it has. -/
  take : Source → (Nat → Fault) → List Document → ListEnd → Except Fault (α × List Document)

namespace Fields

def make (value : α) : Fields α where
  Slots := Unit
  names := []
  blank := ()
  put _ _ _ _ := none
  finish _ := .ok value
  take _ _ items _ := .ok (value, items)

/-- One more field. Where it is absent, `absent` stands in if there is one. -/
def field (f : Fields (β → α)) (name : String) (d : Decoder β) (absent : Option β) :
    Fields α where
  Slots := f.Slots × Option β
  names := f.names ++ [name]
  blank := (f.blank, none)
  put source slots key document :=
    if key = name then
      some (match slots.2 with
        | some _ => .error (.duplicateField name)
        | none => (d.decode source document).map fun value => (slots.1, some value))
    else (f.put source slots.1 key document).map (·.map fun rest => (rest, slots.2))
  finish slots := do
    let make ← f.finish slots.1
    match slots.2 <|> absent with
    | some value => pure (make value)
    | none => .error (.missingField name)
  take source short items ending := do
    let (make, items) ← f.take source short items ending
    match items with
    | item :: items => do
      let value ← d.decode source item
      pure (make value, items)
    | [] => do
      sound ending.used
      match absent with
      | some value => pure (make value, [])
      | none => .error (short f.names.length)

def required (f : Fields (β → α)) (name : String) (d : Decoder β) : Fields α :=
  f.field name d none

def orElse (f : Fields (β → α)) (name : String) (d : Decoder β) (absent : β) : Fields α :=
  f.field name d (some absent)

def optional (f : Fields (Option β → α)) (name : String) (d : Decoder β) : Fields α :=
  f.field name d.option (some none)

def putAll (f : Fields α) (source : Source) (slots : f.Slots) :
    List (Literal × Document) → Except Fault f.Slots
  | [] => .ok slots
  | (key, value) :: members => do
    let key ← sound key.text
    match f.put source slots key value with
    | some slots => putAll f source (← slots) members
    | none => do
      if source matches .text _ then sound value.skip
      putAll f source slots members

/-- Reads members in order and keeps those without a field, checked to be values. -/
def putOwn (f : Fields α) (source : Source) (slots : f.Slots) :
    List (Literal × Document) → Except Fault (f.Slots × List (String × Document))
  | [] => .ok (slots, [])
  | (key, value) :: members => do
    let key ← sound key.text
    match f.put source slots key value with
    | some slots => putOwn f source (← slots) members
    | none => do
      let _ ← anyValue source value
      let (slots, others) ← putOwn f source slots members
      pure (slots, (key, value) :: others)

def putBuffered (f : Fields α) (slots : f.Slots) :
    List (String × Document) → Except Fault f.Slots
  | [] => .ok slots
  | (key, value) :: members =>
    match f.put .buffered slots key value with
    | some slots => do putBuffered f (← slots) members
    | none => putBuffered f slots members

def ofBuffered (f : Fields α) (members : List (String × Document)) : Except Fault α := do
  f.finish (← f.putBuffered f.blank members)

end Fields

def tooLong (source : Source) (length fields : Nat) : Fault :=
  match source with
  | .text _ => .malformed .trailingCharacters
  | .value => .wrongLength length .fewerItems
  | .buffered => .wrongLength length (.items fields)

namespace Decoder

def record (name : String) (f : Fields α) : Decoder α where
  decode source document :=
    match document with
    | .object members ending => do
      let inner ← source.enter
      let slots ← f.putAll inner f.blank members
      sound ending.used
      f.finish slots
    | .array items ending => do
      let inner ← source.enter
      let short := fun n => .wrongLength n (.fields name f.names.length)
      let (value, others) ← f.take inner short items ending
      if others.isEmpty then sound ending.stopped
      else .error (tooLong source items.length f.names.length)
      pure value
    | document => .error (mismatch (.record name) document)

structure Rest (β : Type) where
  decode : List (String × Document) → Except Fault β

def Rest.fields (f : Fields β) : Rest β := ⟨f.ofBuffered⟩

def Rest.members : Rest (List (String × Value)) where
  decode members := do
    let values ← members.mapM fun (key, document) => do
      pure (key, ← anyValue .buffered document)
    pure (sortMembers values)

def flattened (name : String) (own : Fields (β → α)) (rest : Rest β) : Decoder α where
  decode source document :=
    match document with
    | .object members ending => do
      let inner ← source.enter
      let (slots, others) ← own.putOwn inner own.blank members
      sound ending.used
      let make ← own.finish slots
      let part ← rest.decode others
      pure (make part)
    | document => .error (mismatch (.record name) document)

end Decoder

end TezosNode.Decode
