import OutboxRelay.Config.Environment
import OutboxRelay.Outbox.Status

namespace OutboxRelay

/-- The table that a variable names, or the first one without the variable. -/
def OutboxTable.ofEnvironment (env : Environment) : Except Error OutboxTable :=
  match env.lookup "OUTBOX_TABLE" with
  | some name => OutboxTable.parse name
  | none => .ok .core

end OutboxRelay
