import TezosNode.Json.Malformed
import TezosNode.Json.Value
import TezosNode.Text.Bytes

/-!
Documents: what reading a JSON text finds, in the order it stands there. Keys are kept as often as
they occur, and where the text breaks off or goes wrong the tree says so at that place. What such a
place is called depends on whether the value around it is used or skipped, so it is kept as a
situation and named by `Flaw.used` or `Flaw.skipped`.
-/

namespace TezosNode.Json

inductive Flaw where
  | absent
  | badStart
  | wordCutOff
  | badWord
  | numeralCutOff
  | badNumeral
  | colonCutOff
  | badColon
  deriving DecidableEq, Repr, Inhabited

namespace Flaw

def used : Flaw → Malformed
  | absent | wordCutOff | numeralCutOff => .valueCutOff
  | badStart => .noValue
  | badWord => .badWord
  | badNumeral => .badNumeral
  | colonCutOff => .objectCutOff
  | badColon => .noColon

/-- A numeral that is skipped may not end with the text. -/
def skipped : Flaw → Malformed
  | numeralCutOff => .badNumeral
  | flaw => flaw.used

end Flaw

inductive ListEnd where
  | closed
  | cutOff
  | commaClosed
  | commaCutOff
  | junk
  deriving DecidableEq, Repr, Inhabited

namespace ListEnd

def used : ListEnd → Except Malformed Unit
  | closed => .ok ()
  | cutOff => .error .listCutOff
  | commaClosed => .error .trailingComma
  | commaCutOff => .error .valueCutOff
  | junk => .error .noListSeparator

def skipped : ListEnd → Except Malformed Unit
  | commaClosed => .error .noValue
  | ending => ending.used

def stopped : ListEnd → Except Malformed Unit
  | closed => .ok ()
  | cutOff => .error .listCutOff
  | commaClosed => .error .trailingComma
  | commaCutOff | junk => .error .trailingCharacters

end ListEnd

inductive ObjectEnd where
  | closed
  | cutOff
  | commaClosed
  | commaCutOff
  | badKey
  | junk
  deriving DecidableEq, Repr, Inhabited

namespace ObjectEnd

def used : ObjectEnd → Except Malformed Unit
  | closed => .ok ()
  | cutOff => .error .objectCutOff
  | commaClosed => .error .trailingComma
  | commaCutOff => .error .valueCutOff
  | badKey => .error .keyNotString
  | junk => .error .noObjectSeparator

def skipped : ObjectEnd → Except Malformed Unit
  | commaClosed => .error .keyNotString
  | commaCutOff => .error .objectCutOff
  | ending => ending.used

end ObjectEnd

/-- A string as it is written: its text, and whether it can be skipped. A skipped string may hold
unpaired surrogates and bytes that are no UTF-8. -/
structure Literal where
  text : Except Malformed String
  skipped : Except Malformed Unit

inductive Document where
  | null
  | bool (value : Bool)
  | number (value : Except Malformed Number)
  | string (literal : Literal)
  | array (items : List Document) (ending : ListEnd)
  | object (members : List (Literal × Document)) (ending : ObjectEnd)
  | broken (flaw : Flaw)

def Literal.ofString (s : String) : Literal := ⟨.ok s, .ok ()⟩

namespace Document

instance : Inhabited Document := ⟨.null⟩

mutual

def ofValue : Value → Document
  | .null => .null
  | .bool b => .bool b
  | .number n => .number (.ok n)
  | .string s => .string (.ofString s)
  | .array items => .array (ofItems items) .closed
  | .object members => .object (ofMembers members) .closed

def ofItems : List Value → List Document
  | [] => []
  | item :: items => ofValue item :: ofItems items

def ofMembers : List (String × Value) → List (Literal × Document)
  | [] => []
  | (key, value) :: members => (.ofString key, ofValue value) :: ofMembers members

end

mutual

/-- Whether the document can be passed over: its brackets and numerals are in order. -/
def skip : Document → Except Malformed Unit
  | .null | .bool _ | .number _ => .ok ()
  | .string literal => literal.skipped
  | .array items ending => do skipItems items; ending.skipped
  | .object members ending => do skipMembers members; ending.skipped
  | .broken flaw => .error flaw.skipped

def skipItems : List Document → Except Malformed Unit
  | [] => .ok ()
  | item :: items => do skip item; skipItems items

def skipMembers : List (Literal × Document) → Except Malformed Unit
  | [] => .ok ()
  | (key, value) :: members => do key.skipped; skip value; skipMembers members

end

theorem ofItems_eq_map (items : List Value) : ofItems items = items.map ofValue := by
  induction items with
  | nil => rfl
  | cons item items ih => simp [ofItems, ih]

theorem ofMembers_eq_map (members : List (String × Value)) :
    ofMembers members = members.map fun (key, value) => (.ofString key, ofValue value) := by
  induction members with
  | nil => rfl
  | cons member members ih => simp [ofMembers, ih]

end Document

end TezosNode.Json
