namespace TezosNode

abbrev Bytes := List UInt8

namespace Bytes

def ofString (s : String) : Bytes := s.toByteArray.data.toList

def text? (bs : Bytes) : Option String := String.fromUTF8? ⟨bs.toArray⟩

end Bytes

namespace Ascii

def quote : UInt8 := 0x22
def comma : UInt8 := 0x2C
def minus : UInt8 := 0x2D
def plus : UInt8 := 0x2B
def dot : UInt8 := 0x2E
def zero : UInt8 := 0x30
def colon : UInt8 := 0x3A
def backslash : UInt8 := 0x5C
def openBracket : UInt8 := 0x5B
def closeBracket : UInt8 := 0x5D
def openBrace : UInt8 := 0x7B
def closeBrace : UInt8 := 0x7D

def isDigit (b : UInt8) : Bool := 0x30 ≤ b && b ≤ 0x39

def digit (b : UInt8) : Nat := b.toNat - 0x30

def hexDigit? (b : UInt8) : Option Nat :=
  if 0x30 ≤ b && b ≤ 0x39 then some (b.toNat - 0x30)
  else if 0x61 ≤ b && b ≤ 0x66 then some (b.toNat - 0x57)
  else if 0x41 ≤ b && b ≤ 0x46 then some (b.toNat - 0x37)
  else none

def isJsonBlank (b : UInt8) : Bool := b == 0x20 || b == 0x09 || b == 0x0A || b == 0x0D

/-- The blanks of JSON and the form feed. -/
def isBlank (b : UInt8) : Bool := isJsonBlank b || b == 0x0C

theorem isBlank_of_isJsonBlank {b : UInt8} (h : isJsonBlank b = true) : isBlank b = true := by
  simp [isBlank, h]

end Ascii

theorem Bytes.text?_ofString (s : String) : Bytes.text? (Bytes.ofString s) = some s := by
  have valid : s.toByteArray.IsValidUTF8 := s.isValidUTF8
  simp [Bytes.text?, Bytes.ofString, String.fromUTF8?, valid, String.fromUTF8]

end TezosNode
