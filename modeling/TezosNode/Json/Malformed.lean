namespace TezosNode.Json

inductive Malformed where
  | listCutOff
  | objectCutOff
  | stringCutOff
  | valueCutOff
  | noColon
  | noListSeparator
  | noObjectSeparator
  | badWord
  | noValue
  | badEscape
  | badNumeral
  | numberTooLarge
  | badUnicode
  | controlCharacter
  | keyNotString
  | loneSurrogate
  | openSurrogate
  | trailingComma
  | trailingCharacters
  | tooDeep
  deriving DecidableEq, Repr, Inhabited

namespace Malformed

/-- Whether more bytes could have mended the text. -/
def isCutOff : Malformed → Bool
  | listCutOff | objectCutOff | stringCutOff | valueCutOff => true
  | _ => false

def message : Malformed → String
  | listCutOff => "EOF while parsing a list"
  | objectCutOff => "EOF while parsing an object"
  | stringCutOff => "EOF while parsing a string"
  | valueCutOff => "EOF while parsing a value"
  | noColon => "expected `:`"
  | noListSeparator => "expected `,` or `]`"
  | noObjectSeparator => "expected `,` or `\x7d`"
  | badWord => "expected ident"
  | noValue => "expected value"
  | badEscape => "invalid escape"
  | badNumeral => "invalid number"
  | numberTooLarge => "number out of range"
  | badUnicode => "invalid unicode code point"
  | controlCharacter => "control character (\\u0000-\\u001F) found while parsing a string"
  | keyNotString => "key must be a string"
  | loneSurrogate => "lone leading surrogate in hex escape"
  | openSurrogate => "unexpected end of hex escape"
  | trailingComma => "trailing comma"
  | trailingCharacters => "trailing characters"
  | tooDeep => "recursion limit exceeded"

end Malformed

end TezosNode.Json
