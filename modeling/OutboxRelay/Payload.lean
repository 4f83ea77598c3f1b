import OutboxRelay.Error
import OutboxRelay.Json.Printer

namespace OutboxRelay

/-- Event payloads are objects. -/
def toPayload : Json → Except Error Json
  | .obj fields => .ok (.obj fields)
  | v => .error (.invalidInput ("event payload must be a JSON object, got " ++ v.kind))

/-- What is sent to subscribers and signed: the payload without blanks, fields by name. -/
def encodeBody (payload : Json) : String := payload.compact

/-- Fields gathered for a payload. -/
structure PayloadBuilder where
  fields : List (String × Json) := []

namespace PayloadBuilder

def empty : PayloadBuilder := {}

def field (builder : PayloadBuilder) (name : String) (value : Json) : PayloadBuilder :=
  ⟨Json.insertField name value builder.fields⟩

/-- Nothing leaves the field out. -/
def optional (builder : PayloadBuilder) (name : String) : Option Json → PayloadBuilder
  | some value => builder.field name value
  | none => builder

def build (builder : PayloadBuilder) : Json := .obj builder.fields

end PayloadBuilder

end OutboxRelay
