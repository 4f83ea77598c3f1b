import OutboxRelay.Error
import OutboxRelay.Text.Lowercase

namespace OutboxRelay

/-- Where the delivery of an entry stands. -/
inductive OutboxStatus
  | pending
  | delivered
  | failed
  deriving DecidableEq, Repr

namespace OutboxStatus

def all : List OutboxStatus := [.pending, .delivered, .failed]

def name : OutboxStatus → String
  | .pending => "pending"
  | .delivered => "delivered"
  | .failed => "failed"

def isTerminal (s : OutboxStatus) : Bool := s != .pending

def ofName? (s : String) : Option OutboxStatus := all.find? fun status => status.name = s

def parse (s : String) : Except Error OutboxStatus :=
  match ofName? s with
  | some status => .ok status
  | none => .error (.invalidInput ("unknown outbox status: " ++ s))

end OutboxStatus

/-- The two outbox tables, which have the same columns and rules. -/
inductive OutboxTable
  | core
  | portal
  deriving DecidableEq, Repr

namespace OutboxTable

def all : List OutboxTable := [.core, .portal]

def label : OutboxTable → String
  | .core => "core"
  | .portal => "portal"

def name : OutboxTable → String
  | .core => "outbox_event"
  | .portal => "portal_event_outbox"

/-- A table goes by its label or its name, in any case. -/
def parse (s : String) : Except Error OutboxTable :=
  let word := lowercaseAscii s
  match all.find? fun table => table.label = word || table.name = word with
  | some table => .ok table
  | none => .error (.config ("unknown outbox table: " ++ word))

end OutboxTable

end OutboxRelay
