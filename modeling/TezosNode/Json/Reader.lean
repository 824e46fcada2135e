import TezosNode.Json.Literal

/-!
The JSON reader: a push-down machine that takes one byte at a time. `Document.read` runs it on a text
up to the end of the first value and gives the document and the bytes after it.
-/

namespace TezosNode.Json

inductive NumeralPhase where
  | minus
  | zero
  | whole
  | point
  | fraction
  | exponentMark
  | exponentSign
  | exponent
  deriving DecidableEq, Repr, Inhabited

namespace NumeralPhase

def canEnd : NumeralPhase → Bool
  | zero | whole | fraction | exponent => true
  | _ => false

end NumeralPhase

inductive Frame where
  | list (items : List Document)
  | object (members : List (Literal × Document))
  | member (members : List (Literal × Document)) (key : Literal)

inductive Mode where
  | value
  | listStart
  | listNext
  | objectStart
  | objectNext
  | colon
  | after
  | word (letters : Bytes) (value : Document)
  | numeral (phase : NumeralPhase) (numeral : Numeral)
  | string (quote : Quote)
  | key (quote : Quote)

structure Reader where
  stack : List Frame := []
  mode : Mode := .value

namespace Reader

inductive Step where
  | more (reader : Reader)
  /-- A whole value; whether the last byte taken belongs to it. -/
  | value (document : Document) (within : Bool)
  | broken (document : Document)

def enclose (document : Document) : List Frame → Document
  | [] => document
  | .list items :: stack => enclose (.array (document :: items).reverse .cutOff) stack
  | .member members key :: stack =>
    enclose (.object ((key, document) :: members).reverse .cutOff) stack
  | .object _ :: stack => enclose document stack

def breakOff (stack : List Frame) (flaw : Flaw) : Document := enclose (.broken flaw) stack

def endList (ending : ListEnd) : List Frame → Document
  | .list items :: stack => enclose (.array items.reverse ending) stack
  | stack => breakOff stack .absent

def endObject (ending : ObjectEnd) : List Frame → Document
  | .object members :: stack => enclose (.object members.reverse ending) stack
  | stack => breakOff stack .absent

/-- Hands a finished value to the container around it. -/
def give (document : Document) (within : Bool) : List Frame → Step
  | [] => .value document within
  | .list items :: stack => .more ⟨.list (document :: items) :: stack, .after⟩
  | .member members key :: stack => .more ⟨.object ((key, document) :: members) :: stack, .after⟩
  | .object members :: stack => .more ⟨.object members :: stack, .after⟩

def stepAfter (stack : List Frame) (b : UInt8) : Step :=
  if Ascii.isJsonBlank b then .more ⟨stack, .after⟩
  else match stack with
    | .list items :: outer =>
      if b = Ascii.comma then .more ⟨stack, .listNext⟩
      else if b = Ascii.closeBracket then give (.array items.reverse .closed) true outer
      else .broken (endList .junk stack)
    | .object members :: outer =>
      if b = Ascii.comma then .more ⟨stack, .objectNext⟩
      else if b = Ascii.closeBrace then give (.object members.reverse .closed) true outer
      else .broken (endObject .junk stack)
    | _ => .broken (breakOff stack .badStart)

def stepValue (stack : List Frame) (b : UInt8) : Step :=
  if Ascii.isJsonBlank b then .more ⟨stack, .value⟩
  else if b = Ascii.openBracket then .more ⟨.list [] :: stack, .listStart⟩
  else if b = Ascii.openBrace then .more ⟨.object [] :: stack, .objectStart⟩
  else if b = Ascii.quote then .more ⟨stack, .string {}⟩
  else if b = Ascii.minus then .more ⟨stack, .numeral .minus { negative := true }⟩
  else if b = Ascii.zero then .more ⟨stack, .numeral .zero { whole := [0] }⟩
  else if Ascii.isDigit b then .more ⟨stack, .numeral .whole { whole := [Ascii.digit b] }⟩
  else if b = 0x6E then .more ⟨stack, .word [0x75, 0x6C, 0x6C] .null⟩
  else if b = 0x74 then .more ⟨stack, .word [0x72, 0x75, 0x65] (.bool true)⟩
  else if b = 0x66 then .more ⟨stack, .word [0x61, 0x6C, 0x73, 0x65] (.bool false)⟩
  else .broken (breakOff stack .badStart)

def number (numeral : Numeral) : Document :=
  .number (match numeral.number? with
    | some number => .ok number
    | none => .error .numberTooLarge)

def addExponent (numeral : Numeral) (digit : Nat) : Numeral :=
  { numeral with exponent := numeral.exponent.map fun (negative, digits) => (negative, digits ++ [digit]) }

def extend? (phase : NumeralPhase) (n : Numeral) (b : UInt8) :
    Option (NumeralPhase × Numeral) :=
  let isMark := b = 0x65 ∨ b = 0x45
  match phase with
  | .minus =>
    if b = Ascii.zero then some (.zero, { n with whole := [0] })
    else if Ascii.isDigit b then some (.whole, { n with whole := [Ascii.digit b] })
    else none
  | .zero =>
    if b = Ascii.dot then some (.point, n)
    else if isMark then some (.exponentMark, { n with exponent := some (false, []) })
    else none
  | .whole =>
    if Ascii.isDigit b then some (.whole, { n with whole := n.whole ++ [Ascii.digit b] })
    else if b = Ascii.dot then some (.point, n)
    else if isMark then some (.exponentMark, { n with exponent := some (false, []) })
    else none
  | .point =>
    if Ascii.isDigit b then some (.fraction, { n with fraction := [Ascii.digit b] }) else none
  | .fraction =>
    if Ascii.isDigit b then some (.fraction, { n with fraction := n.fraction ++ [Ascii.digit b] })
    else if isMark then some (.exponentMark, { n with exponent := some (false, []) })
    else none
  | .exponentMark =>
    if b = Ascii.plus then some (.exponentSign, n)
    else if b = Ascii.minus then some (.exponentSign, { n with exponent := some (true, []) })
    else if Ascii.isDigit b then some (.exponent, addExponent n (Ascii.digit b))
    else none
  | .exponentSign | .exponent =>
    if Ascii.isDigit b then some (.exponent, addExponent n (Ascii.digit b)) else none

/-- A numeral ends before the first byte that is no part of it, but a zero in front takes no digit. -/
def stepNumeral (stack : List Frame) (phase : NumeralPhase) (n : Numeral) (b : UInt8) : Step :=
  match extend? phase n b with
  | some (phase, n) => .more ⟨stack, .numeral phase n⟩
  | none =>
    if phase.canEnd && !(phase = .zero && Ascii.isDigit b) then
      match give (number n) false stack with
      | .more reader => stepAfter reader.stack b
      | ended => ended
    else .broken (breakOff stack .badNumeral)

def step (reader : Reader) (b : UInt8) : Step :=
  let stack := reader.stack
  match reader.mode with
  | .value => stepValue stack b
  | .listStart =>
    if Ascii.isJsonBlank b then .more reader
    else if b = Ascii.closeBracket then give (.array [] .closed) true stack.tail
    else stepValue stack b
  | .listNext =>
    if Ascii.isJsonBlank b then .more reader
    else if b = Ascii.closeBracket then .broken (endList .commaClosed stack)
    else stepValue stack b
  | .objectStart =>
    if Ascii.isJsonBlank b then .more reader
    else if b = Ascii.closeBrace then give (.object [] .closed) true stack.tail
    else if b = Ascii.quote then .more ⟨stack, .key {}⟩
    else .broken (endObject .badKey stack)
  | .objectNext =>
    if Ascii.isJsonBlank b then .more reader
    else if b = Ascii.closeBrace then .broken (endObject .commaClosed stack)
    else if b = Ascii.quote then .more ⟨stack, .key {}⟩
    else .broken (endObject .badKey stack)
  | .colon =>
    if Ascii.isJsonBlank b then .more reader
    else if b = Ascii.colon then .more ⟨stack, .value⟩
    else .broken (breakOff stack .badColon)
  | .after => stepAfter stack b
  | .word [] value => give value false stack
  | .word [letter] value =>
    if b = letter then give value true stack else .broken (breakOff stack .badWord)
  | .word (letter :: letters) value =>
    if b = letter then .more ⟨stack, .word letters value⟩ else .broken (breakOff stack .badWord)
  | .numeral phase n => stepNumeral stack phase n b
  | .string quote =>
    match quote.step b with
    | .more quote => .more ⟨stack, .string quote⟩
    | .closed literal => give (.string literal) true stack
    | .failed literal => .broken (enclose (.string literal) stack)
  | .key quote =>
    match stack, quote.step b with
    | _, .more quote => .more ⟨stack, .key quote⟩
    | .object members :: outer, .closed literal => .more ⟨.member members literal :: outer, .colon⟩
    | .object members :: outer, .failed literal =>
      .broken (breakOff (.member members literal :: outer) .absent)
    | stack, _ => .broken (breakOff stack .absent)

def finish (reader : Reader) : Document :=
  let stack := reader.stack
  match reader.mode with
  | .value => breakOff stack .absent
  | .listStart => endList .cutOff stack
  | .listNext => endList .commaCutOff stack
  | .objectStart => endObject .cutOff stack
  | .objectNext => endObject .commaCutOff stack
  | .colon => breakOff stack .colonCutOff
  | .after => finishAfter stack
  | .word _ _ => breakOff stack .wordCutOff
  | .numeral phase n =>
    if phase.canEnd then
      match give (number n) false stack with
      | .more reader => finishAfter reader.stack
      | .value document _ | .broken document => document
    else breakOff stack .numeralCutOff
  | .string quote => enclose (.string quote.cutOff) stack
  | .key quote =>
    match stack with
    | .object members :: outer => breakOff (.member members quote.cutOff :: outer) .absent
    | stack => breakOff stack .absent
where
  finishAfter : List Frame → Document
    | .list items :: stack => endList .cutOff (.list items :: stack)
    | stack => endObject .cutOff stack

def run (reader : Reader) : Bytes → Document × Bytes
  | [] => (reader.finish, [])
  | b :: bs =>
    match reader.step b with
    | .more reader => run reader bs
    | .value document true => (document, bs)
    | .value document false => (document, b :: bs)
    | .broken document => (document, [])

end Reader

def Document.read (text : Bytes) : Document × Bytes := Reader.run {} text

end TezosNode.Json
