import OutboxRelay.Uuid

namespace OutboxRelay

/-- Why the tables refuse a write or a query. -/
inductive StoreFault
  | check
  | unique
  | numericRange
  | nullCharacter
  | negativeLimit
  | timeRange
  | unreadable
  | aborted
  deriving DecidableEq, Repr

def StoreFault.text : StoreFault → String
  | .check => "a row breaks a check of its table"
  | .unique => "a row repeats a unique value"
  | .numericRange => "a number is out of range"
  | .nullCharacter => "a text contains the character U+0000"
  | .negativeLimit => "a limit must not be negative"
  | .timeRange => "a time is out of range"
  | .unreadable => "a value of a row cannot be read"
  | .aborted => "a statement of the transaction has failed before"

/-- Why a retry cannot be scheduled, which is a panic. -/
inductive ScheduleFault
  | emptyJitterRange
  | delayOutOfRange
  | timeOutOfRange
  deriving DecidableEq, Repr

def ScheduleFault.text : ScheduleFault → String
  | .emptyJitterRange => "cannot sample empty range"
  | .delayOutOfRange => "the delay is out of range"
  | .timeOutOfRange => "the time of the next attempt is out of range"

inductive Error
  | database (fault : StoreFault)
  | duplicateEvent (eventType idempotencyKey : String)
  | duplicatePart (session : Uuid) (partNumber : Int)
  | incompleteUpload (session : Uuid) (received expected : Int)
  | invalidTransition (entity : String) (id : Uuid) (expected : String)
  | notFound (what : String)
  | serialization (reason : String)
  | config (reason : String)
  | invalidInput (reason : String)
  | request (reason : String)
  | internal (reason : String)
  | unschedulable (fault : ScheduleFault)
  deriving DecidableEq, Repr

namespace Error

/-- The name of the kind of error. -/
def kind : Error → String
  | .database _ => "Database"
  | .duplicateEvent .. => "DuplicateEvent"
  | .duplicatePart .. => "DuplicatePart"
  | .incompleteUpload .. => "IncompleteUpload"
  | .invalidTransition .. => "InvalidTransition"
  | .notFound _ => "NotFound"
  | .serialization _ => "Serialization"
  | .config _ => "Config"
  | .invalidInput _ => "InvalidInput"
  | .request _ => "Request"
  | .internal _ => "Internal"
  | .unschedulable _ => "Unschedulable"

def text : Error → String
  | .database fault => "Database error: " ++ fault.text
  | .duplicateEvent eventType key =>
    "Duplicate event: " ++ eventType ++ " with idempotency key " ++ key ++ " already emitted"
  | .duplicatePart session part =>
    "Duplicate part: part " ++ toString part ++ " already recorded for session " ++ session.text
  | .incompleteUpload session received expected =>
    "Incomplete upload: cannot complete session " ++ session.text ++ ": received " ++
      toString received ++ " of " ++ toString expected ++ " parts"
  | .invalidTransition entity id expected =>
    "Invalid transition: " ++ entity ++ " " ++ id.text ++ " is not " ++ expected
  | .notFound what => "Not found: " ++ what
  | .serialization reason => "Serialization error: " ++ reason
  | .config reason => "Configuration error: " ++ reason
  | .invalidInput reason => "Invalid input: " ++ reason
  | .request reason => "Request error: " ++ reason
  | .internal reason => "Internal error: " ++ reason
  | .unschedulable fault => fault.text

/-- Whether the event was there already, which callers take as success. -/
def isDuplicateEvent : Error → Bool
  | .duplicateEvent .. => true
  | _ => false

/-- Whether the caller asked for something that the state of the record does not allow. -/
def isPrecondition : Error → Bool
  | .incompleteUpload .. => true
  | .invalidTransition .. => true
  | _ => false

end Error

end OutboxRelay
