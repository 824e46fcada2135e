import TezosNode.Json.Reader
import TezosNode.Decode.Fault

/-!
Decoders: from a document to a typed value or the first fault, in the order of the document. A decoder
serves three sources. A text may not nest too deep, and a list too long for a record is reported in
the way of its source. Values and buffered documents hold nothing broken.
-/

namespace TezosNode.Decode

open Json

inductive Source where
  /-- A text that may nest less deep than `room` from here. -/
  | text (room : Nat)
  | value
  | buffered
  deriving DecidableEq, Repr, Inhabited

def Source.enter : Source → Except Fault Source
  | .text room => if room ≤ 1 then .error (.malformed .tooDeep) else .ok (.text (room - 1))
  | source => .ok source

structure Decoder (α : Type) where
  decode : Source → Document → Except Fault α

def sound (result : Except Malformed α) : Except Fault α := result.mapError .malformed

/-- The fault of a document of the wrong kind: its own one if it is broken. -/
def mismatch (wanted : Wanted) : Document → Fault
  | .null => .wrongType .null wanted
  | .bool b => .wrongType (.bool b) wanted
  | .number (.ok n) => .wrongType (.number n) wanted
  | .number (.error fault) => .malformed fault
  | .string ⟨.ok s, _⟩ => .wrongType (.string s) wanted
  | .string ⟨.error fault, _⟩ => .malformed fault
  | .array _ _ => .wrongType .sequence wanted
  | .object _ _ => .wrongType .map wanted
  | .broken flaw => .malformed flaw.used

mutual

def anyValue (source : Source) : Document → Except Fault Value
  | .null => .ok .null
  | .bool b => .ok (.bool b)
  | .number n => (sound n).map .number
  | .string literal => (sound literal.text).map .string
  | .array items ending => do
    let inner ← source.enter
    let items ← anyItems inner items
    sound ending.used
    pure (.array items)
  | .object members ending => do
    let inner ← source.enter
    let members ← anyMembers inner members
    sound ending.used
    pure (.object (sortMembers members))
  | .broken flaw => .error (.malformed flaw.used)

def anyItems (source : Source) : List Document → Except Fault (List Value)
  | [] => .ok []
  | item :: items => do
    let item ← anyValue source item
    let items ← anyItems source items
    pure (item :: items)

def anyMembers (source : Source) :
    List (Literal × Document) → Except Fault (List (String × Value))
  | [] => .ok []
  | (key, value) :: members => do
    let key ← sound key.text
    let value ← anyValue source value
    let members ← anyMembers source members
    pure ((key, value) :: members)

end

namespace Decoder

def any : Decoder Value := ⟨anyValue⟩

def map (f : α → β) (d : Decoder α) : Decoder β :=
  ⟨fun source document => (d.decode source document).map f⟩

def refine (d : Decoder α) (f : α → Except Fault β) : Decoder β :=
  ⟨fun source document => (d.decode source document).bind f⟩

def textFor (wanted : Wanted) : Decoder String where
  decode _ document :=
    match document with
    | .string literal => sound literal.text
    | document => .error (mismatch wanted document)

def text : Decoder String := textFor .text

def bool : Decoder Bool where
  decode _ document :=
    match document with
    | .bool b => .ok b
    | document => .error (mismatch .boolean document)

def integer (kind : String) (low high : Int) : Decoder Int where
  decode _ document :=
    match document with
    | .number (.ok (.integer n)) =>
      if low ≤ n ∧ n ≤ high then .ok n else .error (.wrongValue (.number (.integer n)) (.integer kind))
    | document => .error (mismatch (.integer kind) document)

def uint8 : Decoder UInt8 := (integer "u8" 0 255).map fun n => .ofNat n.toNat
def uint16 : Decoder UInt16 := (integer "u16" 0 65535).map fun n => .ofNat n.toNat
def uint32 : Decoder UInt32 := (integer "u32" 0 4294967295).map fun n => .ofNat n.toNat
def uint64 : Decoder UInt64 := (integer "u64" 0 18446744073709551615).map fun n => .ofNat n.toNat
def int32 : Decoder Int32 := (integer "i32" (-2147483648) 2147483647).map .ofInt
def int64 : Decoder Int64 := (integer "i64" (-9223372036854775808) 9223372036854775807).map .ofInt

/-- The bits of a double; integers are rounded to one. -/
def double : Decoder UInt64 where
  decode _ document :=
    match document with
    | .number (.ok (.double bits)) => .ok bits
    | .number (.ok (.integer n)) => .ok (Float.ofInt n).toBits
    | document => .error (mismatch .double document)

def unit : Decoder Unit where
  decode _ document :=
    match document with
    | .null => .ok ()
    | document => .error (mismatch .unit document)

def option (d : Decoder α) : Decoder (Option α) where
  decode source document :=
    match document with
    | .null => .ok none
    | document => (d.decode source document).map some

def list (d : Decoder α) : Decoder (List α) where
  decode source document :=
    match document with
    | .array items ending => do
      let inner ← source.enter
      let items ← items.mapM (d.decode inner)
      sound ending.used
      pure items
    | document => .error (mismatch .sequence document)

def fromText (read : String → Except Fault α) : Decoder α := text.refine read

def instant : Decoder Time.Instant :=
  (textFor .instant).refine fun s => (Time.Instant.read s).mapError .instant

def hex : Decoder Bytes := fromText fun s => (Text.readHex s).mapError .hex

def quotedInt64 : Decoder Int64 :=
  fromText fun s => ((Text.readInt64 s).mapError .integer).map .ofInt

def ofValue (d : Decoder α) (value : Value) : Except Fault α := d.decode .value (.ofValue value)

def textRoom : Nat := 128

/-- The first value of a text, and the bytes after it. -/
def ofFront (d : Decoder α) (text : Bytes) : Except Fault (α × Bytes) := do
  let (document, rest) := Document.read text
  let value ← d.decode (.text textRoom) document
  pure (value, rest)

def ofText (d : Decoder α) (text : Bytes) : Except Fault α := do
  let (value, rest) ← d.ofFront text
  if rest.all Ascii.isJsonBlank then pure value else .error (.malformed .trailingCharacters)

end Decoder

end TezosNode.Decode
