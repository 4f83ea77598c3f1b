import OutboxRelay.Binary64.Basic

namespace OutboxRelay

/-- A JSON value. Integers are those of 64 bits, signed or unsigned; every other number is a
floating-point number. The fields of an object stand in the order of their names. -/
inductive Json
  | null
  | bool (b : Bool)
  | int (n : Int)
  | float (x : Binary64)
  | str (s : String)
  | arr (items : List Json)
  | obj (fields : List (String × Json))
  deriving Repr, BEq

namespace Json

/-- Sets the value of a name. A name that is there keeps its place and takes the new value. -/
def insertField {α : Type} (name : String) (value : α) : List (String × α) → List (String × α)
  | [] => [(name, value)]
  | (other, old) :: rest =>
    if name = other then (name, value) :: rest
    else if name < other then (name, value) :: (other, old) :: rest
    else (other, old) :: insertField name value rest

/-- Of two fields of one name the later one stays. -/
def object (fields : List (String × Json)) : Json :=
  .obj (fields.foldl (fun done field => insertField field.1 field.2 done) [])

def empty : Json := .obj []

def field? (name : String) : Json → Option Json
  | .obj fields => fields.lookup name
  | _ => none

def str? : Json → Option String
  | .str s => some s
  | _ => none

def int? : Json → Option Int
  | .int n => some n
  | _ => none

def bool? : Json → Option Bool
  | .bool b => some b
  | _ => none

def items? : Json → Option (List Json)
  | .arr items => some items
  | _ => none

def fields : Json → List (String × Json)
  | .obj fields => fields
  | _ => []

/-- An object with the fields of two; what the second has goes first. -/
def merge (v changes : Json) : Json := object (v.fields ++ changes.fields)

def ofOption {α : Type} (encode : α → Json) : Option α → Json
  | none => .null
  | some a => encode a

def ofNat (n : Nat) : Json := .int n

def strings (texts : List String) : Json := .arr (texts.map .str)

/-- What kind of value it is, as error texts name it. -/
def kind : Json → String
  | .null => "null"
  | .bool _ => "boolean"
  | .int _ => "number"
  | .float _ => "number"
  | .str _ => "string"
  | .arr _ => "array"
  | .obj _ => "object"

mutual

/-- Whether some text of the value, a field name included, has a character for which `p` holds. -/
def anyChar (p : Char → Bool) : Json → Bool
  | .str s => s.toList.any p
  | .arr items => anyCharItems p items
  | .obj fields => anyCharFields p fields
  | .null => false
  | .bool _ => false
  | .int _ => false
  | .float _ => false

def anyCharItems (p : Char → Bool) : List Json → Bool
  | [] => false
  | v :: rest => v.anyChar p || anyCharItems p rest

def anyCharFields (p : Char → Bool) : List (String × Json) → Bool
  | [] => false
  | (name, v) :: rest => name.toList.any p || v.anyChar p || anyCharFields p rest

end

end Json

end OutboxRelay
