import TezosNode.Json.Value
import TezosNode.Decimal.Text
import TezosNode.Text.Hex

namespace TezosNode.Json

def escapeChar (c : Char) : List Char :=
  if c = '"' then ['\\', '"']
  else if c = '\\' then ['\\', '\\']
  else if c = '\x08' then ['\\', 'b']
  else if c = '\x0c' then ['\\', 'f']
  else if c = '\n' then ['\\', 'n']
  else if c = '\r' then ['\\', 'r']
  else if c = '\t' then ['\\', 't']
  else if c.toNat < 0x20 then
    ['\\', 'u', '0', '0', Text.hexChar (c.toNat / 16), Text.hexChar (c.toNat % 16)]
  else [c]

def renderString (s : String) : List Char :=
  '"' :: s.toList.flatMap escapeChar ++ ['"']

def Number.render : Number → List Char
  | .integer n => (toString n).toList
  | .double bits => (Decimal.render Decimal.jsonStyle bits).toList

namespace Value

mutual

def chars : Value → List Char
  | .null => ['n', 'u', 'l', 'l']
  | .bool true => ['t', 'r', 'u', 'e']
  | .bool false => ['f', 'a', 'l', 's', 'e']
  | .number n => n.render
  | .string s => renderString s
  | .array items => '[' :: itemChars items
  | .object members => '\x7b' :: memberChars members

def itemChars : List Value → List Char
  | [] => [']']
  | [item] => chars item ++ [']']
  | item :: items => chars item ++ ',' :: itemChars items

def memberChars : List (String × Value) → List Char
  | [] => ['\x7d']
  | [(key, value)] => renderString key ++ ':' :: chars value ++ ['\x7d']
  | (key, value) :: members => renderString key ++ ':' :: chars value ++ ',' :: memberChars members

end

def render (v : Value) : String := String.ofList v.chars

end Value

end TezosNode.Json
