import OutboxRelay.Instant.Rfc3339
import OutboxRelay.Json.Printer
import OutboxRelay.Json.Tree
import OutboxRelay.Uuid

namespace OutboxRelay

/-- Reads a value of one type from a text. The number says how many containers may still stand in
each other, one more than the most that is read. -/
abbrev Decoder (α : Type) := JsonTree → Nat → Option α

namespace Decoder

def json : Decoder Json := JsonTree.toJson? Json.parse?

def text : Decoder String
  | .str s, _ => s
  | _, _ => none

def bool : Decoder Bool
  | .bool b, _ => some b
  | _, _ => none

/-- An integer within bounds, written without point and exponent. -/
def int (low high : Int) : Decoder Int
  | .number n, _ => n.toInt?.filter fun i => low ≤ i && i ≤ high
  | _, _ => none

def nat (high : Nat) : Decoder Nat := fun tree depth =>
  (int 0 high tree depth).map Int.toNat

def uuid : Decoder Uuid
  | .str s, _ => s.bind Uuid.ofText?
  | _, _ => none

def instant : Decoder Instant
  | .str s, _ => s.bind Instant.ofText?
  | _, _ => none

/-- Null stands for nothing. -/
def option {α : Type} (read : Decoder α) : Decoder (Option α)
  | .null, _ => some none
  | tree, depth => (read tree depth).map some

def items {α : Type} (read : Decoder α) (depth : Nat) : List JsonTree → Option (List α)
  | [] => some []
  | tree :: rest => do
    let item ← read tree depth
    let rest ← items read depth rest
    return item :: rest

def list {α : Type} (read : Decoder α) : Decoder (List α)
  | .arr trees, depth => if depth < 2 then none else items read (depth - 1) trees
  | _, _ => none

/-- One of several names, as a text or as an object whose only field is the name with null. -/
def named {α : Type} (ofName? : String → Option α) : Decoder α
  | .str s, _ => s.bind ofName?
  | .obj [(name, .null)], depth => if depth < 2 then none else name.bind ofName?
  | _, _ => none

/-- The known fields of an object. A field may stand there once only; a name without a value
stands nowhere. -/
def knownFields? (names : List String) :
    List (Option String × JsonTree) → Option (List (String × JsonTree))
  | [] => some []
  | (name, tree) :: rest => do
    let name ← name
    let known ← knownFields? names rest
    if name ∈ names then
      if (known.lookup name).isSome then none else some ((name, tree) :: known)
    else some known

/-- The fields of a record, written as an object or as an array in the order of `names`. Of the
array the last `spare` values may be missing. -/
def record? (names : List String) (spare : Nat) : Decoder (List (String × JsonTree))
  | .obj fields, depth => if depth < 2 then none else knownFields? names fields
  | .arr items, depth =>
    if depth < 2 ∨ names.length < items.length ∨ items.length + spare < names.length then none
    else some (names.zip items)
  | _, _ => none

/-- Reads a field that has to be there. -/
def field {α : Type} (name : String) (read : Decoder α)
    (fields : List (String × JsonTree)) (depth : Nat) : Option α :=
  (fields.lookup name).bind fun tree => read tree (depth - 1)

/-- Reads a field that may be missing. -/
def fieldOr {α : Type} (name : String) (read : Decoder α) (default : α)
    (fields : List (String × JsonTree)) (depth : Nat) : Option α :=
  match fields.lookup name with
  | some tree => read tree (depth - 1)
  | none => some default

end Decoder

namespace Json

def ofUuid (u : Uuid) : Json := .str u.text

def ofInstant (t : Instant) : Json := .str t.text

def ofSpan (s : Span) : Json :=
  object [("secs", ofNat s.secs), ("nanos", ofNat s.subsecNanos)]

end Json

/-- A type whose values are exchanged as JSON texts. -/
class Wire (α : Type) where
  decoder : Decoder α
  toJson : α → Json

namespace Wire

variable {α : Type} [Wire α]

/-- The value of a text, if the text is exactly one. -/
def ofText? (s : String) : Option α :=
  (JsonTree.ofText? s).bind fun tree => decoder tree JsonTree.depthLimit

def text (a : α) : String := (toJson a).compact

end Wire

end OutboxRelay
