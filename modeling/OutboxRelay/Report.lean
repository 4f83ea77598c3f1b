import OutboxRelay.Error
import OutboxRelay.Json.Basic

namespace OutboxRelay

/-- What a caller outside is told of an error. What went wrong within the tables or in a JSON text
stays inside. -/
def Error.toJson : Error → Json
  | .database fault => Json.object [("error", .str (Error.database fault).kind)]
  | .serialization reason => Json.object [("error", .str (Error.serialization reason).kind)]
  | e => Json.object [("error", .str e.kind), ("message", .str e.text)]

/-- The outcome of an operation: its value under `ok`, or the error. -/
def Json.ofResult {α : Type} (encode : α → Json) : Except Error α → Json
  | .ok a => object [("ok", encode a)]
  | .error e => e.toJson

end OutboxRelay
