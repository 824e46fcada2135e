import TezosNode.Text.Printable

/-!
Quoted text for messages: quotes and backslashes are escaped, and so is every character that does not
print on its own, by a letter where it has one and else by its code point.
-/

namespace TezosNode.Text

def lowerHex (n : Nat) : List Char := Nat.toDigits 16 n

def escapeChar (quote c : Char) : List Char :=
  if c = '\x00' then ['\\', '0']
  else if c = '\t' then ['\\', 't']
  else if c = '\n' then ['\\', 'n']
  else if c = '\r' then ['\\', 'r']
  else if c = '\\' ∨ c = quote then ['\\', c]
  else if isPrintable c then [c]
  else ['\\', 'u', '\x7b'] ++ lowerHex c.toNat ++ ['\x7d']

def quote (s : String) : String :=
  String.ofList ('"' :: s.toList.flatMap (escapeChar '"') ++ ['"'])

def quoteChar (c : Char) : String := String.ofList ('\'' :: escapeChar '\'' c ++ ['\''])

end TezosNode.Text
