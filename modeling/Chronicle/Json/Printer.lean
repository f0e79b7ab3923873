import Chronicle.Json.Basic

/-!
# Compact JSON text

No spaces. In texts a quote, a backslash and the control characters below U+0020 are escaped, the
latter by a letter where JSON has one and by four lower-case digits otherwise; every other
character stands for itself.
-/

namespace Chronicle.Json

def escapeChar (c : Char) : List Char :=
  if c = '"' then ['\\', '"']
  else if c = '\\' then ['\\', '\\']
  else if c = '\x08' then ['\\', 'b']
  else if c = '\x0c' then ['\\', 'f']
  else if c = '\n' then ['\\', 'n']
  else if c = '\r' then ['\\', 'r']
  else if c = '\t' then ['\\', 't']
  else if c.toNat < 0x20 then
    ['\\', 'u', '0', '0', Nat.digitChar (c.toNat / 16), Nat.digitChar (c.toNat % 16)]
  else [c]

def quoted (s : String) : List Char :=
  '"' :: (s.toList.flatMap escapeChar ++ ['"'])

def natChars (n : Nat) : List Char := Nat.toDigits 10 n

def intChars (n : Int) : List Char :=
  if n < 0 then '-' :: natChars n.natAbs else natChars n.natAbs

def Token.chars : Token → List Char
  | .arrOpen => ['[']
  | .arrClose => [']']
  | .objOpen => ['\x7b']
  | .objClose => ['\x7d']
  | .comma => [',']
  | .colon => [':']
  | .null => ['n', 'u', 'l', 'l']
  | .bool true => ['t', 'r', 'u', 'e']
  | .bool false => ['f', 'a', 'l', 's', 'e']
  | .int n => intChars n
  | .real m e => intChars m ++ 'e' :: intChars e
  | .str s => quoted s
  | .halfPair => ['"', '\\', 'u', 'd', '8', '0', '0', '"']

def compact (j : Json) : String :=
  String.ofList (j.tokens.flatMap Token.chars)

end Chronicle.Json
