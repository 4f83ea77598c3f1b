import OutboxRelay.Binary64.Shortest
import OutboxRelay.Json.Tree

namespace OutboxRelay

/-- The number without an exponent above zero, as columns write it. There are no more digits after
the point than the exponent moves in front of it. -/
def NumberLiteral.plain (n : NumberLiteral) : NumberLiteral :=
  match n.exponent with
  | some (false, digits) =>
    let fraction := n.fraction.getD []
    let zeros := Nat.ofDigitChars 10 digits 0 - fraction.length
    ⟨n.negative, n.whole ++ fraction ++ List.replicate zeros '0', none, none⟩
  | _ => n

/-- Columns keep decimal digits: a zero has no sign there, and what has no fraction is read as an
integer. -/
def Binary64.readBack? (x : Binary64) : Option Json :=
  if x.isZero then some (.float (zero false))
  else (JsonTree.readNumber? x.text).bind fun n => JsonTree.numberToJson? n.1.plain

namespace Json

/-- The order in which columns keep the fields of an object: shorter names first. -/
def columnBefore (a b : String) : Bool :=
  a.utf8ByteSize < b.utf8ByteSize || (a.utf8ByteSize = b.utf8ByteSize && a ≤ b)

/-- Whether an object comes out of a column with the reserved name in front, which makes it an
embedded text to its reader. -/
def embedsInColumn (fields : List (String × Json)) : Bool :=
  fields.any (·.1 = JsonTree.embeddedName) &&
    fields.all fun field => columnBefore JsonTree.embeddedName field.1

/-- The text that the only field of an object embeds. -/
def embeddedText? : List (String × Json) → Option String
  | [(_, .str s)] => some s
  | _ => none

mutual

/-- What a reader makes of a value that was put into a column. It reads no containers that nest
`depth` deep, and no object that stands for an embedded text without being one. -/
def readBackWithin? : Json → Nat → Option Json
  | .null, _ => some .null
  | .bool b, _ => some (.bool b)
  | .int n, _ => some (.int n)
  | .float x, _ => x.readBack?
  | .str s, _ => some (.str s)
  | .arr items, depth =>
    if depth < 2 then none else (itemsBackWithin? items (depth - 1)).map .arr
  | .obj fields, depth =>
    if depth < 2 then none
    else if embedsInColumn fields then (embeddedText? fields).bind parse?
    else (fieldsBackWithin? fields (depth - 1)).map .obj

def itemsBackWithin? : List Json → Nat → Option (List Json)
  | [], _ => some []
  | v :: rest, depth => do
    let v ← v.readBackWithin? depth
    let rest ← itemsBackWithin? rest depth
    return v :: rest

def fieldsBackWithin? : List (String × Json) → Nat → Option (List (String × Json))
  | [], _ => some []
  | (name, v) :: rest, depth => do
    let v ← v.readBackWithin? depth
    let rest ← fieldsBackWithin? rest depth
    return (name, v) :: rest

end

/-- The value that is read when a row is fetched. -/
def readBack? (v : Json) : Option Json := v.readBackWithin? JsonTree.depthLimit

end Json

end OutboxRelay
