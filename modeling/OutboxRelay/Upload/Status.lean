import OutboxRelay.Error

namespace OutboxRelay

/-- The life of an uploaded file. -/
inductive FileStatus
  | uploading
  | stored
  | processed
  | failed
  | deleted
  deriving DecidableEq, Repr

namespace FileStatus

def all : List FileStatus := [.uploading, .stored, .processed, .failed, .deleted]

def name : FileStatus → String
  | .uploading => "uploading"
  | .stored => "stored"
  | .processed => "processed"
  | .failed => "failed"
  | .deleted => "deleted"

def isSuccess : FileStatus → Bool
  | .stored => true
  | .processed => true
  | _ => false

def ofName? (s : String) : Option FileStatus := all.find? fun status => status.name = s

def parse (s : String) : Except Error FileStatus :=
  match ofName? s with
  | some status => .ok status
  | none => .error (.invalidInput ("unknown upload file status: " ++ s))

end FileStatus

/-- The status of a batch, which follows from its files once it is finalized. -/
inductive BatchStatus
  | init
  | inProgress
  | complete
  | partly
  | failed
  deriving DecidableEq, Repr

namespace BatchStatus

def all : List BatchStatus := [.init, .inProgress, .complete, .partly, .failed]

def name : BatchStatus → String
  | .init => "init"
  | .inProgress => "in_progress"
  | .complete => "complete"
  | .partly => "partial"
  | .failed => "failed"

def ofName? (s : String) : Option BatchStatus := all.find? fun status => status.name = s

def parse (s : String) : Except Error BatchStatus :=
  match ofName? s with
  | some status => .ok status
  | none => .error (.invalidInput ("unknown upload batch status: " ++ s))

/-- Without files, or with failures only, a batch has failed; it is complete if every file is a
success. -/
def ofFiles (files : List FileStatus) : BatchStatus :=
  if files.all (· = .failed) then .failed
  else if files.all FileStatus.isSuccess then .complete
  else .partly

end BatchStatus

/-- The status of a chunked upload. -/
inductive SessionStatus
  | init
  | inProgress
  | complete
  | failed
  | aborted
  deriving DecidableEq, Repr

namespace SessionStatus

def all : List SessionStatus := [.init, .inProgress, .complete, .failed, .aborted]

def name : SessionStatus → String
  | .init => "init"
  | .inProgress => "in_progress"
  | .complete => "complete"
  | .failed => "failed"
  | .aborted => "aborted"

def isTerminal : SessionStatus → Bool
  | .complete => true
  | .failed => true
  | .aborted => true
  | _ => false

def ofName? (s : String) : Option SessionStatus := all.find? fun status => status.name = s

def parse (s : String) : Except Error SessionStatus :=
  match ofName? s with
  | some status => .ok status
  | none => .error (.invalidInput ("unknown upload session status: " ++ s))

end SessionStatus

/-- The status of one chunk. -/
inductive PartStatus
  | pending
  | received
  | failed
  deriving DecidableEq, Repr

namespace PartStatus

def all : List PartStatus := [.pending, .received, .failed]

def name : PartStatus → String
  | .pending => "pending"
  | .received => "received"
  | .failed => "failed"

def ofName? (s : String) : Option PartStatus := all.find? fun status => status.name = s

def parse (s : String) : Except Error PartStatus :=
  match ofName? s with
  | some status => .ok status
  | none => .error (.invalidInput ("unknown upload part status: " ++ s))

end PartStatus

end OutboxRelay
