import OutboxRelay.Json.Basic
import OutboxRelay.Binary64.Shortest

namespace OutboxRelay.Json

/-- Only the quote, the backslash and the characters below U+0020 are escaped. -/
def escapeChar (c : Char) : List Char :=
  if c = '"' then ['\\', '"']
  else if c = '\\' then ['\\', '\\']
  else if 0x20 ≤ c.toNat then [c]
  else if c.toNat = 8 then ['\\', 'b']
  else if c = '\t' then ['\\', 't']
  else if c = '\n' then ['\\', 'n']
  else if c.toNat = 12 then ['\\', 'f']
  else if c = '\r' then ['\\', 'r']
  else '\\' :: 'u' :: fixedHex 4 c.toNat

def quoteChars (cs : List Char) : List Char :=
  '"' :: (cs.flatMap escapeChar ++ ['"'])

def intChars : Int → List Char
  | .ofNat n => Nat.toDigits 10 n
  | .negSucc n => '-' :: Nat.toDigits 10 (n + 1)

mutual

/-- The text without any blank. -/
def chars : Json → List Char
  | .null => ['n', 'u', 'l', 'l']
  | .bool true => ['t', 'r', 'u', 'e']
  | .bool false => ['f', 'a', 'l', 's', 'e']
  | .int n => intChars n
  | .float x => x.text
  | .str s => quoteChars s.toList
  | .arr [] => ['[', ']']
  | .arr (v :: rest) => '[' :: (v.chars ++ itemChars rest)
  | .obj [] => ['{', '}']
  | .obj ((name, v) :: rest) =>
    '{' :: (quoteChars name.toList ++ ':' :: (v.chars ++ fieldChars rest))

def itemChars : List Json → List Char
  | [] => [']']
  | v :: rest => ',' :: (v.chars ++ itemChars rest)

def fieldChars : List (String × Json) → List Char
  | [] => ['}']
  | (name, v) :: rest =>
    ',' :: (quoteChars name.toList ++ ':' :: (v.chars ++ fieldChars rest))

end

def compact (v : Json) : String := String.ofList v.chars

end OutboxRelay.Json
