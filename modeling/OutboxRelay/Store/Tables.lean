import OutboxRelay.Column
import OutboxRelay.Endpoint.Basic
import OutboxRelay.Outbox.Entry
import OutboxRelay.Upload.Record

namespace OutboxRelay

/-- The rows of all tables, each in the order in which they were inserted. -/
structure Tables where
  core : List OutboxEntry := []
  portal : List OutboxEntry := []
  endpoints : List WebhookEndpoint := []
  batches : List UploadBatch := []
  files : List UploadFile := []
  sessions : List UploadSession := []
  parts : List UploadPart := []
  deriving Repr

namespace Tables

def outbox (t : Tables) : OutboxTable → List OutboxEntry
  | .core => t.core
  | .portal => t.portal

def setOutbox (t : Tables) (table : OutboxTable) (rows : List OutboxEntry) : Tables :=
  match table with
  | .core => { t with core := rows }
  | .portal => { t with portal := rows }

end Tables

/-- Texts with the character U+0000 cannot be stored. -/
def hasNull (s : String) : Bool := s.toList.any (·.toNat = 0)

def Json.hasNull (v : Json) : Bool := v.anyChar (·.toNat = 0)

/-- Refuses texts that cannot be stored. -/
def checkTexts (texts : List String) : Except Error Unit :=
  if texts.any hasNull then .error (.database .nullCharacter) else .ok ()

end OutboxRelay
