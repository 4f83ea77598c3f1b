import OutboxRelay.Json.Basic
import OutboxRelay.Binary64.Decimal

namespace OutboxRelay

/-- A JSON text as it is written: numbers keep their digits, fields their order and repetitions,
and a text with half a surrogate pair is there without a value. -/
inductive JsonTree
  | null
  | bool (b : Bool)
  | number (n : NumberLiteral)
  | str (s : Option String)
  | arr (items : List JsonTree)
  | obj (fields : List (Option String × JsonTree))
  deriving Repr

namespace JsonTree

def isSpace (c : Char) : Bool :=
  c == ' ' || c == '\t' || c == '\n' || c == '\r'

def skipSpace (cs : List Char) : List Char :=
  cs.dropWhile isSpace

/-- The digits at the head, at least one, and what follows them. -/
def readDigits? (cs : List Char) : Option (List Char × List Char) :=
  match cs.takeWhile Char.isDigit with
  | [] => none
  | digits => some (digits, cs.dropWhile Char.isDigit)

/-- A whole part has no zero in front of other digits. -/
def readWhole? (cs : List Char) : Option (List Char × List Char) :=
  match readDigits? cs with
  | some ('0' :: _ :: _, _) => none
  | result => result

def readExponentDigits? (below : Bool) (cs : List Char) :
    Option (Option (Bool × List Char) × List Char) :=
  (readDigits? cs).map fun (digits, rest) => (some (below, digits), rest)

def readExponent? (cs : List Char) : Option (Option (Bool × List Char) × List Char) :=
  match cs with
  | c :: rest =>
    if c = 'e' ∨ c = 'E' then
      match rest with
      | '+' :: digits => readExponentDigits? false digits
      | '-' :: digits => readExponentDigits? true digits
      | digits => readExponentDigits? false digits
    else some (none, cs)
  | [] => some (none, [])

def readFraction? (cs : List Char) : Option (Option (List Char) × List Char) :=
  match cs with
  | '.' :: rest => (readDigits? rest).map fun (digits, rest) => (some digits, rest)
  | rest => some (none, rest)

def readNumber? (cs : List Char) : Option (NumberLiteral × List Char) := do
  let (negative, cs) := match cs with
    | '-' :: rest => (true, rest)
    | rest => (false, rest)
  let (whole, cs) ← readWhole? cs
  let (fraction, cs) ← readFraction? cs
  let (exponent, cs) ← readExponent? cs
  return (⟨negative, whole, fraction, exponent⟩, cs)

/-- The character that a backslash and `c` stand for. -/
def unescape? (c : Char) : Option Char :=
  if c = '"' ∨ c = '\\' ∨ c = '/' then some c
  else if c = 'b' then some (Char.ofNat 8)
  else if c = 'f' then some (Char.ofNat 12)
  else if c = 'n' then some '\n'
  else if c = 'r' then some '\r'
  else if c = 't' then some '\t'
  else none

/-- The code points of a text after its opening quote, halves of surrogate pairs apart, and what
follows the closing quote. -/
def readPoints? : List Char → Option (List Nat × List Char)
  | '"' :: rest => some ([], rest)
  | '\\' :: 'u' :: a :: b :: c :: d :: rest => do
    let point ← hexadecimal? [a, b, c, d]
    let (points, rest) ← readPoints? rest
    return (point :: points, rest)
  | '\\' :: c :: rest => do
    let char ← unescape? c
    let (points, rest) ← readPoints? rest
    return (char.toNat :: points, rest)
  | c :: rest =>
    if c.toNat < 0x20 ∨ c = '\\' then none
    else do
      let (points, rest) ← readPoints? rest
      return (c.toNat :: points, rest)
  | [] => none

/-- Surrogates are no characters; a pair of them, the high one first, is one character. -/
def joinPairs? : List Nat → Option (List Char)
  | [] => some []
  | [point] =>
    if 0xD800 ≤ point ∧ point < 0xE000 then none else some [Char.ofNat point]
  | point :: next :: rest =>
    if 0xDC00 ≤ point ∧ point < 0xE000 then none
    else if 0xD800 ≤ point ∧ point < 0xDC00 then
      if 0xDC00 ≤ next ∧ next < 0xE000 then
        (joinPairs? rest).map fun cs =>
          Char.ofNat (0x10000 + (point - 0xD800) * 0x400 + (next - 0xDC00)) :: cs
      else none
    else (joinPairs? (next :: rest)).map fun cs => Char.ofNat point :: cs

def readText? (cs : List Char) : Option (Option String × List Char) :=
  (readPoints? cs).map fun (points, rest) => ((joinPairs? points).map String.ofList, rest)

mutual

/-- One value and what follows it; `fuel` bounds the recursion and twice the length of the text
and two more are always enough. -/
def readValue? : Nat → List Char → Option (JsonTree × List Char)
  | 0, _ => none
  | fuel + 1, cs =>
    match skipSpace cs with
    | 'n' :: 'u' :: 'l' :: 'l' :: rest => some (.null, rest)
    | 't' :: 'r' :: 'u' :: 'e' :: rest => some (.bool true, rest)
    | 'f' :: 'a' :: 'l' :: 's' :: 'e' :: rest => some (.bool false, rest)
    | '"' :: rest => (readText? rest).map fun (s, rest) => (.str s, rest)
    | '[' :: rest =>
      match skipSpace rest with
      | ']' :: rest => some (.arr [], rest)
      | rest => (readItems? fuel rest).map fun (items, rest) => (.arr items, rest)
    | '{' :: rest =>
      match skipSpace rest with
      | '}' :: rest => some (.obj [], rest)
      | rest => (readFields? fuel rest).map fun (fields, rest) => (.obj fields, rest)
    | rest => (readNumber? rest).map fun (n, rest) => (.number n, rest)

/-- Values with commas between them up to the closing bracket. -/
def readItems? : Nat → List Char → Option (List JsonTree × List Char)
  | 0, _ => none
  | fuel + 1, cs =>
    match readValue? fuel cs with
    | none => none
    | some (v, rest) =>
      match skipSpace rest with
      | ']' :: rest => some ([v], rest)
      | ',' :: rest => (readItems? fuel rest).map fun (items, rest) => (v :: items, rest)
      | _ => none

/-- Fields with commas between them up to the closing brace. -/
def readFields? : Nat → List Char → Option (List (Option String × JsonTree) × List Char)
  | 0, _ => none
  | fuel + 1, cs =>
    match skipSpace cs with
    | '"' :: rest =>
      match readText? rest with
      | none => none
      | some (name, rest) =>
        match skipSpace rest with
        | ':' :: rest =>
          match readValue? fuel rest with
          | none => none
          | some (v, rest) =>
            match skipSpace rest with
            | '}' :: rest => some ([(name, v)], rest)
            | ',' :: rest =>
              (readFields? fuel rest).map fun (fields, rest) => ((name, v) :: fields, rest)
            | _ => none
        | _ => none
    | _ => none

end

/-- The one value of a text; nothing but spaces may stand around it. -/
def read? (cs : List Char) : Option JsonTree :=
  match readValue? (2 * cs.length + 2) cs with
  | some (v, rest) => if (skipSpace rest).isEmpty then some v else none
  | none => none

def ofText? (s : String) : Option JsonTree :=
  read? s.toList

/-- How many containers may stand in each other, one more than the most that is read. -/
def depthLimit : Nat := 128

/-- An integer if it can be one, else a floating-point number. -/
def numberToJson? (n : NumberLiteral) : Option Json :=
  match n.toInt? with
  | some i => some (.int i)
  | none => n.toBinary64?.map .float

/-- The name of a field that stands alone in its object and makes the object an embedded text. -/
def embeddedName : String := "$serde_json::private::RawValue"

/-- Whether the first of the fields makes their object an embedded text. -/
def isEmbedding : List (Option String × JsonTree) → Bool
  | (name, _) :: _ => name == some embeddedName
  | [] => false

/-- The text that the only field of an object embeds. -/
def embeddedText? : List (Option String × JsonTree) → Option String
  | [(_, .str s)] => s
  | _ => none

mutual

/-- The value, unless it nests containers `depth` deep, has a number beyond the greatest one or a
text without a value. An embedded text stands for what `embedded` makes of it. -/
def toJson? (embedded : String → Option Json) : JsonTree → Nat → Option Json
  | .null, _ => some .null
  | .bool b, _ => some (.bool b)
  | .number n, _ => numberToJson? n
  | .str s, _ => s.map .str
  | .arr items, depth =>
    if depth < 2 then none else (itemsToJson? embedded items (depth - 1)).map .arr
  | .obj fields, depth =>
    if depth < 2 then none
    else if isEmbedding fields then (embeddedText? fields).bind embedded
    else (fieldsToJson? embedded fields (depth - 1)).map Json.object

def itemsToJson? (embedded : String → Option Json) : List JsonTree → Nat → Option (List Json)
  | [], _ => some []
  | v :: rest, depth => do
    let v ← v.toJson? embedded depth
    let rest ← itemsToJson? embedded rest depth
    return v :: rest

def fieldsToJson? (embedded : String → Option Json) :
    List (Option String × JsonTree) → Nat → Option (List (String × Json))
  | [], _ => some []
  | (name, v) :: rest, depth => do
    let name ← name
    let v ← v.toJson? embedded depth
    let rest ← fieldsToJson? embedded rest depth
    return (name, v) :: rest

end

end JsonTree

namespace Json

/-- The value that a text stands for, if texts are embedded in each other less than `levels`
times. -/
def parseEmbedded? : Nat → String → Option Json
  | 0, _ => none
  | levels + 1, s =>
    (JsonTree.ofText? s).bind fun tree => tree.toJson? (parseEmbedded? levels) JsonTree.depthLimit

/-- The value that a text stands for. An embedded text is shorter than the text around it, so the
length is enough levels. -/
def parse? (s : String) : Option Json := parseEmbedded? (s.length + 1) s

end Json

end OutboxRelay
