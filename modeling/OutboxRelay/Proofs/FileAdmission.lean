import Mathlib.Data.List.TakeWhile
import OutboxRelay.Proofs.FileTexts

namespace OutboxRelay

/-! ### Extensions -/

/-- The scan from the end of a name stops at its last point. -/
theorem extension?_join {stem ext : String} (flat : '.' ∉ ext.toList) :
    extension? (stem ++ "." ++ ext) =
      if stem = "" ∨ ext = "" then none else some (lowercase ext) := by
  have reversed : (stem ++ "." ++ ext).toList.reverse =
      ext.toList.reverse ++ '.' :: stem.toList.reverse := by
    simp [String.toList_append]
  have before : ∀ c ∈ ext.toList.reverse, decide (c ≠ '.') = true := by
    intro c member
    refine decide_eq_true fun isPoint => flat ?_
    rwa [← isPoint, ← List.mem_reverse]
  have stop : ∀ c ∈ ('.' :: stem.toList.reverse).head?, decide (c ≠ '.') = false := by
    intro c isFirst
    cases isFirst
    decide
  unfold extension?
  dsimp only
  rw [reversed, takeWhile_append_of_stop before stop, dropWhile_append_of_stop before stop,
    List.reverse_reverse, String.ofList_toList]
  cases chars : stem.toList.reverse with
  | nil =>
    have empty : stem = "" := by simpa using chars
    rw [if_pos (Or.inl empty)]
  | cons c rest =>
    have some : stem ≠ "" := by
      rintro rfl
      cases chars
    simp only [some, false_or, List.isEmpty_iff, String.toList_eq_nil_iff]

theorem extension?_of_no_point {filename : String} (flat : '.' ∉ filename.toList) :
    extension? filename = none := by
  have none : filename.toList.reverse.dropWhile (· ≠ '.') = [] := by
    refine List.dropWhile_eq_nil_iff.mpr fun c member => decide_eq_true fun isPoint => flat ?_
    rwa [← isPoint, ← List.mem_reverse]
  unfold extension?
  dsimp only
  rw [none]

/-- A name with a point has a last one. -/
theorem exists_join {filename : String} (point : '.' ∈ filename.toList) :
    ∃ stem ext : String, '.' ∉ ext.toList ∧ filename = stem ++ "." ++ ext := by
  obtain ⟨after, before, parts, flat⟩ :=
    List.eq_append_cons_of_mem (List.mem_reverse.mpr point)
  refine ⟨String.ofList before.reverse, String.ofList after.reverse, ?_, ?_⟩
  · rwa [String.toList_ofList, List.mem_reverse]
  · refine String.toList_inj.mp ?_
    rw [← List.reverse_inj, parts]
    simp [String.toList_append]

theorem extension?_eq_some_iff {filename found : String} :
    extension? filename = some found ↔
      ∃ stem ext : String, stem ≠ "" ∧ ext ≠ "" ∧ '.' ∉ ext.toList ∧
        filename = stem ++ "." ++ ext ∧ lowercase ext = found := by
  constructor
  · intro isFound
    by_cases point : '.' ∈ filename.toList
    · obtain ⟨stem, ext, flat, rfl⟩ := exists_join point
      rw [extension?_join flat] at isFound
      split at isFound
      · cases isFound
      · rename_i named
        rw [not_or] at named
        exact ⟨stem, ext, named.1, named.2, flat, rfl, Option.some.inj isFound⟩
    · rw [extension?_of_no_point point] at isFound
      cases isFound
  · rintro ⟨stem, ext, someStem, someExt, flat, rfl, rfl⟩
    rw [extension?_join flat, if_neg (not_or.mpr ⟨someStem, someExt⟩)]

/-- The name is a stem, a point and the extension of a program, in whatever case. -/
def Blocked (filename : String) : Prop :=
  ∃ stem ext : String, stem ≠ "" ∧ '.' ∉ ext.toList ∧ filename = stem ++ "." ++ ext ∧
    lowercase ext ∈ blockedExtensions

theorem blockedExtension?_eq_some {filename found : String}
    (isFound : blockedExtension? filename = some found) :
    found ∈ blockedExtensions ∧ Blocked filename := by
  obtain ⟨named, blocked⟩ := Option.filter_eq_some_iff.mp isFound
  obtain ⟨stem, ext, someStem, _, flat, parts, rfl⟩ := extension?_eq_some_iff.mp named
  have member := List.contains_iff_mem.mp blocked
  exact ⟨member, stem, ext, someStem, flat, parts, member⟩

theorem blockedExtension?_eq_none_iff {filename : String} :
    blockedExtension? filename = none ↔ ¬Blocked filename := by
  constructor
  · rintro none ⟨stem, ext, someStem, flat, parts, blocked⟩
    have someExt : ext ≠ "" := by
      rintro rfl
      exact absurd blocked (by decide +kernel)
    have named := extension?_eq_some_iff.mpr ⟨stem, ext, someStem, someExt, flat, parts, rfl⟩
    rw [blockedExtension?, named, Option.filter_some,
      if_pos (List.contains_iff_mem.mpr blocked)] at none
    cases none
  · intro free
    cases found : blockedExtension? filename with
    | none => rfl
    | some ext => exact absurd (blockedExtension?_eq_some found).2 free

theorem lowercaseChar_of_toLower {c : Char} (small : c.toLower.toNat < 0x80) :
    lowercaseChar c = [c.toLower] := by
  have ascii : c.toNat < 0x80 := by
    unfold Char.toLower at small
    split at small
    · rename_i capital
      exact Nat.lt_of_le_of_lt (UInt32.le_iff_toNat_le.mp capital.2) (by decide)
    · exact small
  exact if_pos ascii

theorem lowercase_of_lowercaseAscii {s : String}
    (small : ∀ c ∈ (lowercaseAscii s).toList, c.toNat < 0x80) : lowercase s = lowercaseAscii s := by
  rw [lowercaseAscii, String.toList_ofList, List.forall_mem_map] at small
  have single : s.toList.flatMap lowercaseChar = s.toList.flatMap fun c => [c.toLower] :=
    List.flatMap_congr fun c member => lowercaseChar_of_toLower (small c member)
  rw [lowercase, single, lowercaseAscii, List.map_eq_flatMap]

theorem blockedExtensions_plain : ∀ ext ∈ blockedExtensions, ∀ c ∈ ext.toList,
    c.toNat ≠ 0 ∧ c.toNat < 0x80 ∧ c ≠ '.' := by
  have each : (blockedExtensions.all fun ext => ext.toList.all fun c =>
      decide (c.toNat ≠ 0 ∧ c.toNat < 0x80 ∧ c ≠ '.')) = true := by decide +kernel
  intro ext blocked c member
  exact of_decide_eq_true (List.all_eq_true.mp (List.all_eq_true.mp each ext blocked) c member)

/-- Whichever letters of a blocked extension are capitals, after any stem it is caught. -/
theorem blocked_of_case {stem spelled : String} (some : stem ≠ "")
    (blocked : lowercaseAscii spelled ∈ blockedExtensions) : Blocked (stem ++ "." ++ spelled) := by
  have plain := blockedExtensions_plain _ blocked
  refine ⟨stem, spelled, some, fun point => ?_, rfl, ?_⟩
  · refine (plain '.' ?_).2.2 rfl
    rw [lowercaseAscii, String.toList_ofList]
    exact List.mem_map_of_mem (f := Char.toLower) point
  · rwa [lowercase_of_lowercaseAscii fun c member => (plain c member).2.1]

theorem hasNull_guessContentType (filename : String) : hasNull (guessContentType filename) = false := by
  have table : ∀ pair ∈ extensionTypes, hasNull pair.2 = false := by decide +kernel
  unfold guessContentType
  cases found : (extension? filename).bind fun ext => extensionTypes.lookup ext with
  | none => decide
  | some contentType =>
    obtain ⟨ext, _, isType⟩ := Option.bind_eq_some_iff.mp found
    obtain ⟨before, after, parts, _⟩ := List.lookup_eq_some_iff.mp isType
    exact table (ext, contentType) (parts ▸ List.mem_append_right _ List.mem_cons_self)

/-! ### Policies -/

namespace UploadPolicy
variable {policy : UploadPolicy} {filename : String} {size : Int} {request : NewUploadFile}

/-- What a policy lets through: what the client claims of the type does not matter. -/
structure Admits (policy : UploadPolicy) (request : NewUploadFile) : Prop where
  nonneg : 0 ≤ request.sizeBytes
  within : request.sizeBytes ≤ policy.maxSizeBytes
  unblocked : ¬Blocked request.filename
  allowed : ∀ types, policy.allowedTypes = some types → guessContentType request.filename ∈ types

/-- The tables can hold the names of all types that are allowed. -/
def Storable (policy : UploadPolicy) : Prop :=
  ∀ types, policy.allowedTypes = some types → ∀ contentType ∈ types, hasNull contentType = false

theorem rejection?_eq_none_iff :
    policy.rejection? request.filename request.sizeBytes = none ↔ policy.Admits request := by
  unfold rejection?
  split
  · rename_i negative
    exact ⟨nofun, fun admits => absurd admits.nonneg (by omega)⟩
  · rename_i nonneg
    split
    · rename_i large
      exact ⟨nofun, fun admits => absurd admits.within (by omega)⟩
    · rename_i within
      split
      · rename_i ext blocked
        exact ⟨nofun, fun admits => absurd (blockedExtension?_eq_some blocked).2 admits.unblocked⟩
      · rename_i free
        have unblocked := blockedExtension?_eq_none_iff.mp free
        dsimp only
        split
        · rename_i types isTypes
          split
          · rename_i allowed
            refine ⟨fun _ => ⟨by omega, by omega, unblocked, fun other isOther => ?_⟩, fun _ => rfl⟩
            cases isTypes.symm.trans isOther
            exact List.contains_iff_mem.mp allowed
          · rename_i refused
            exact ⟨nofun, fun admits =>
              absurd (List.contains_iff_mem.mpr (admits.allowed types isTypes)) refused⟩
        · rename_i all
          exact ⟨fun _ => ⟨by omega, by omega, unblocked, fun types isTypes =>
            absurd (all.symm.trans isTypes) nofun⟩, fun _ => rfl⟩

theorem text_ne_empty (rejection : Rejection) : rejection.text ≠ "" := by
  have named : ∀ word rest : String, word ≠ "" → word ++ rest ≠ "" := fun word rest some empty =>
    some (String.append_eq_empty_iff.mp empty).1
  cases rejection with
  | negativeSize size => exact named _ _ (named "File size " _ (by decide))
  | tooLarge size limit =>
    exact named _ _ (named _ _ (named _ _ (named "File size " _ (by decide))))
  | blockedExtension ext => exact named _ _ (named "File extension ." _ (by decide))
  | typeNotAllowed contentType allowed =>
    exact named _ _ (named _ _ (named "File type '" _ (by decide)))

/-- The tables can hold the reason of every refusal. -/
theorem Storable.hasNull_text (storable : policy.Storable) {rejection : Rejection}
    (rejected : policy.rejection? filename size = some rejection) :
    hasNull rejection.text = false := by
  unfold rejection? at rejected
  split at rejected
  · cases rejected
    change hasNull ("File size " ++ toString size ++ " bytes is negative.") = false
    rw [hasNull_append, hasNull_append, hasNull_toString_int]
    decide
  · split at rejected
    · cases rejected
      change hasNull ("File size " ++ toString size ++ " bytes exceeds maximum of " ++
        toString policy.maxSizeBytes ++ " bytes.") = false
      iterate 4 rw [hasNull_append]
      rw [hasNull_toString_int, hasNull_toString_int]
      decide
    · split at rejected
      · rename_i ext blocked
        cases rejected
        have clean : hasNull ext = false := hasNull_eq_false_iff.mpr fun c member =>
          (blockedExtensions_plain ext (blockedExtension?_eq_some blocked).1 c member).1
        change hasNull ("File extension ." ++ ext ++ " is not allowed.") = false
        rw [hasNull_append, hasNull_append, clean]
        decide
      · dsimp only at rejected
        split at rejected
        · rename_i types isTypes
          split at rejected
          · cases rejected
          · cases rejected
            have list := hasNull_intercalate (by decide : hasNull ", " = false)
              (storable types isTypes)
            change hasNull ("File type '" ++ guessContentType filename ++
              "' is not allowed. Allowed types: " ++ String.intercalate ", " types) = false
            rw [hasNull_append, hasNull_append, hasNull_append, hasNull_guessContentType, list]
            decide
        · cases rejected

end UploadPolicy

/-! ### Registration -/

namespace NewUploadFile

/-- The request names a batch that is not there. -/
def Misplaced (request : NewUploadFile) (t : Tables) : Prop :=
  ∃ batch, request.batchId = some batch ∧ t.batch? batch = none

/-- The metadata can be read back from a table that holds it. -/
def Readable (request : NewUploadFile) : Prop :=
  ∀ value ∈ request.metadata, value.readBack?.isSome = true

/-- The tables can hold the texts and the metadata. -/
structure Storable (request : NewUploadFile) : Prop where
  texts : ∀ text ∈ request.filename :: (request.contentType.toList ++ request.sha256.toList),
    hasNull text = false
  metadata : ∀ value ∈ request.metadata, value.hasNull = false

end NewUploadFile

/-- The unit after a file has been put into it. -/
def UnitOfWork.registering (u : UnitOfWork) (file : UploadFile) : UnitOfWork :=
  { u with tables := { u.tables with files := u.tables.files ++ [file] }, serial := u.serial + 1 }

namespace UploadSettings
variable {settings : UploadSettings} {now : Instant} {u : UnitOfWork} {request : NewUploadFile}
  {file : UploadFile}

/-- A file that nothing speaks against is there afterwards, whether it can be read or not. -/
theorem run_insertFile (clean : file.Clean) (metadata : file.metadata.hasNull = false)
    (placed : ∀ batch, file.batchId = some batch → u.tables.batch? batch ≠ none) :
    (insertFile file).run u =
      (if file.metadata.readBack?.isNone then .error (.database .unreadable) else .ok (inTable file),
        { u with tables := { u.tables with files := u.tables.files ++ [inTable file] } }) := by
  have texts : checkTexts [file.filename, file.contentType, file.sha256, file.errorMessage] = .ok () :=
    checkTexts_eq_ok_iff.mpr clean
  rw [insertFile, texts, Stateful.run_bind_ok (Stateful.run_lift _ _), metadata,
    if_neg Bool.false_ne_true, Work.run_tables_bind]
  cases named : file.batchId with
  | none => cases file.metadata.readBack?.isNone <;> rfl
  | some batch =>
    have there : ¬(u.tables.batch? batch).isNone = true := by
      rw [Option.isNone_iff_eq_none]
      exact placed batch named
    dsimp only
    rw [if_neg there]
    cases file.metadata.readBack?.isNone <;> rfl

/-- A file that cannot be read back is none, and one that is refused is announced. -/
theorem run_createFile (digest : ¬MalformedSha256 request.sha256)
    (placed : ¬request.Misplaced u.tables)
    (isFile : settings.newFile (Uuid.ofSerial u.serial) request now = file) (clean : file.Clean)
    (metadata : file.metadata.hasNull = false) :
    (settings.createFile now request : Work UploadFile).run u =
      if file.metadata.readBack?.isNone then
        (.error (.database .unreadable), u.registering (inTable file))
      else if file.status = .failed then
        ((fun _ => inTable file) <$> settings.outbox.emit now ((inTable file).event fileFailed none)).run
          (u.registering (inTable file))
      else (.ok (inTable file), u.registering (inTable file)) := by
  have inserted := run_insertFile (u := { u with serial := u.serial + 1 }) clean metadata
    fun batch named missing => placed ⟨batch, by rw [← named, ← isFile]; rfl, missing⟩
  rw [createFile, checkSha256_eq_ok_iff.mpr digest, Stateful.run_bind_ok (Stateful.run_lift _ _),
    Work.transaction_part, Work.run_freshId_bind]
  dsimp only
  rw [isFile]
  cases unreadable : file.metadata.readBack?.isNone with
  | true =>
    rw [unreadable] at inserted
    exact Stateful.run_bind_error inserted
  | false =>
    rw [unreadable] at inserted
    rw [Stateful.run_bind_ok inserted]
    by_cases failed : file.status = .failed
    · rw [if_neg Bool.false_ne_true, if_pos failed]
      exact congrFun (if_pos failed) _
    · rw [if_neg Bool.false_ne_true, if_neg failed]
      exact congrFun (if_neg failed) _

theorem newFile_of_admitted (admits : settings.policy.Admits request) (id : Uuid) (now : Instant) :
    settings.newFile id request now = {
      id
      batchId := request.batchId
      uploadedBy := request.uploadedBy
      filename := request.filename
      contentType := guessContentType request.filename
      sizeBytes := max request.sizeBytes 0
      sha256 := request.sha256.getD ""
      metadata := request.metadata.getD Json.empty
      status := .uploading
      errorMessage := ""
      createdAt := now.stored
      updatedAt := now.stored } := by
  have accepted := UploadPolicy.rejection?_eq_none_iff.mpr admits
  simp only [newFile, accepted, Option.isNone_none, if_true, Option.map_none, Option.getD_none]

theorem newFile_of_refused (refused : ¬settings.policy.Admits request) (id : Uuid) (now : Instant) :
    ∃ rejection, settings.policy.rejection? request.filename request.sizeBytes = some rejection ∧
      (settings.newFile id request now).status = .failed ∧
      (settings.newFile id request now).errorMessage = rejection.text := by
  cases found : settings.policy.rejection? request.filename request.sizeBytes with
  | none => exact absurd (UploadPolicy.rejection?_eq_none_iff.mp found) refused
  | some rejection =>
    refine ⟨rejection, rfl, ?_, ?_⟩ <;>
      simp only [newFile, found, Option.isNone_some, Bool.false_eq_true, if_false, Option.map_some,
        Option.getD_some]

theorem newFile_clean (storable : request.Storable) (types : settings.policy.Storable) (id : Uuid)
    (now : Instant) : (settings.newFile id request now).Clean := by
  have texts := storable.texts
  have filename : hasNull request.filename = false := texts _ List.mem_cons_self
  have claimed : hasNull (request.contentType.getD (guessContentType request.filename)) = false := by
    cases isClaimed : request.contentType with
    | none => exact hasNull_guessContentType _
    | some contentType =>
      exact texts contentType (by simp [isClaimed])
  have sha256 : hasNull (request.sha256.getD "") = false := by
    cases isDigest : request.sha256 with
    | none => decide
    | some digest =>
      exact texts digest (by simp [isDigest])
  have clean : ∀ file : UploadFile, file.filename = request.filename →
      file.sha256 = request.sha256.getD "" → hasNull file.contentType = false →
      hasNull file.errorMessage = false → file.Clean := by
    intro file named digest contentType errorMessage
    simp only [UploadFile.Clean, List.any_cons, List.any_nil, named, digest, filename, sha256,
      contentType, errorMessage, Bool.or_false]
  by_cases admits : settings.policy.Admits request
  · rw [newFile_of_admitted admits]
    exact clean _ rfl rfl (hasNull_guessContentType _) (by decide : hasNull "" = false)
  · obtain ⟨rejection, isRejected, _, isText⟩ := newFile_of_refused admits id now
    refine clean _ rfl rfl ?_ (isText ▸ types.hasNull_text isRejected)
    simp only [newFile, isRejected, Option.isNone_some, Bool.false_eq_true, if_false]
    exact claimed

/-- Of an admitted upload the type that the client claims leaves no trace. -/
theorem createFile_claimed {m : Type → Type} [Monad m] [MonadLiftT (Except Error) m] [MonadStore m]
    (admits : settings.policy.Admits request) (now : Instant) (claimed : Option String) :
    (settings.createFile now { request with contentType := claimed } : m UploadFile) =
      settings.createFile now request := by
  have admits' : settings.policy.Admits { request with contentType := claimed } :=
    ⟨admits.nonneg, admits.within, admits.unblocked, admits.allowed⟩
  simp only [createFile, newFile_of_admitted admits, newFile_of_admitted admits']

end UploadSettings

namespace Store
variable {s : Store} {request : NewUploadFile}

/-- What is there once a file has been registered: the file, and `events` in the outbox. -/
structure Registered (s : Store) (settings : UploadSettings) (request : NewUploadFile)
    (file : UploadFile) (events : List OutboxEntry) (s' : Store) : Prop where
  id : file.id = Uuid.ofSerial s.serial
  filename : file.filename = request.filename
  metadata : some file.metadata = (request.metadata.getD Json.empty).readBack?
  tables : s'.tables =
    ({ s.tables with files := s.tables.files ++ [file] } : Tables).setOutbox settings.outbox.table
      (s.rows settings.outbox.table ++ events)
  uploading_iff : file.status = .uploading ↔ settings.policy.Admits request
  admitted : file.status = .uploading →
    file.contentType = guessContentType request.filename ∧ events = []
  refused : file.status ≠ .uploading →
    file.status = .failed ∧ file.errorMessage ≠ "" ∧ file.sizeBytes = max request.sizeBytes 0 ∧
      ∃ entry, events = [entry] ∧ entry.eventType = fileFailed ∧
        entry.idempotencyKey = file.id.fileKey ∧
        entry.payload.field? "error" = some (.str file.errorMessage)

/-- A call that fails has stored nothing. -/
theorem perform_createFile_refused (db : Database) (now : Instant)
    (wrong : MalformedSha256 request.sha256 ∨ request.Misplaced s.tables) :
    (∃ e, (s.perform ⟨db, now, .createFile request⟩).1 = .error e) ∧
      (s.perform ⟨db, now, .createFile request⟩).2.tables = s.tables := by
  obtain ⟨e, failed, kept, _⟩ | ⟨reply, u, run, _, _⟩ :=
    s.perform_cases ⟨db, now, .createFile request⟩
  · exact ⟨⟨e, failed⟩, kept⟩
  · obtain ⟨file, created, _⟩ := Stateful.run_map_eq_ok run
    obtain ⟨isFile, _, placed, _⟩ := UploadSettings.createFile_eq_ok created
    obtain ⟨⟨⟩, digest, _⟩ := Work.run_lift_bind_eq_ok_iff.mp created
    rcases wrong with malformed | ⟨batch, named, missing⟩
    · exact absurd malformed (checkSha256_eq_ok_iff.mp digest)
    · have there := placed batch (by rw [isFile]; exact named)
      rw [show s.begin.tables = s.tables from rfl, missing] at there
      cases there

/-- The new file of a request that the tables can hold. -/
theorem metadata_newFile {settings : UploadSettings} (storable : request.Storable) (id : Uuid)
    (now : Instant) : (settings.newFile id request now).metadata.hasNull = false := by
  change (request.metadata.getD Json.empty).hasNull = false
  cases isGiven : request.metadata with
  | none => decide
  | some value => exact storable.metadata value isGiven

theorem readBack?_metadata_iff : (request.metadata.getD Json.empty).readBack?.isNone = false ↔
    request.Readable := by
  rw [NewUploadFile.Readable, Option.isNone_eq_false_iff]
  cases request.metadata with
  | none =>
    rw [Option.getD_none, Json.readBack?_empty]
    exact ⟨fun _ => nofun, fun _ => rfl⟩
  | some value =>
    rw [Option.getD_some]
    exact ⟨fun readable _ given => Option.mem_some.mp given ▸ readable, fun all => all value rfl⟩

/-- Metadata that cannot be read back keep a file out, though the tables could hold them. -/
theorem perform_createFile_unreadable (db : Database) (now : Instant) (storable : request.Storable)
    (types : db.uploads.policy.Storable) (digest : ¬MalformedSha256 request.sha256)
    (placed : ¬request.Misplaced s.tables) (unreadable : ¬request.Readable) :
    (s.perform ⟨db, now, .createFile request⟩).1 = .error (.database .unreadable) ∧
      (s.perform ⟨db, now, .createFile request⟩).2.tables = s.tables := by
  have run := UploadSettings.run_createFile (u := s.begin) digest placed rfl
    (UploadSettings.newFile_clean storable types _ now) (metadata_newFile storable _ now)
  rw [if_pos (by rwa [← readBack?_metadata_iff, Bool.not_eq_false] at unreadable)] at run
  have performed : s.perform ⟨db, now, .createFile request⟩ = _ := perform_map_error rfl run
  rw [performed]
  exact ⟨rfl, rfl⟩

/-- Where the metadata can be read back, a file is there as it is read. -/
theorem run_createFile_readable (db : Database) (now : Instant) (storable : request.Storable)
    (readable : request.Readable) (types : db.uploads.policy.Storable)
    (digest : ¬MalformedSha256 request.sha256) (placed : ¬request.Misplaced s.tables) :
    let file := db.uploads.newFile (Uuid.ofSerial s.serial) request now
    let stored := UploadSettings.inTable file
    some stored.metadata = (request.metadata.getD Json.empty).readBack? ∧
      (db.uploads.createFile now request : Work UploadFile).run s.begin =
        if file.status = .failed then
          ((fun _ => stored) <$> db.uploads.outbox.emit now (stored.event fileFailed none)).run
            (s.begin.registering stored)
        else (.ok stored, s.begin.registering stored) := by
  intro file stored
  have kept : file.metadata.readBack?.isNone = false := readBack?_metadata_iff.mpr readable
  have run := UploadSettings.run_createFile (u := s.begin) digest placed rfl
    (UploadSettings.newFile_clean storable types _ now) (metadata_newFile storable _ now)
  obtain ⟨value, isValue⟩ := Option.isSome_iff_exists.mp (Option.isNone_eq_false_iff.mp kept)
  refine ⟨?_, run.trans (if_neg (Bool.eq_false_iff.mp kept))⟩
  change some (file.metadata.readBack?.getD file.metadata) = file.metadata.readBack?
  rw [isValue, Option.getD_some]

theorem perform_createFile_admitted (db : Database) (now : Instant) (storable : request.Storable)
    (readable : request.Readable) (types : db.uploads.policy.Storable)
    (digest : ¬MalformedSha256 request.sha256) (placed : ¬request.Misplaced s.tables)
    (admits : db.uploads.policy.Admits request) :
    ∃ file s', s.perform ⟨db, now, .createFile request⟩ = (.ok (.file file), s') ∧
      s.Registered db.uploads request file [] s' := by
  obtain ⟨metadata, run⟩ := run_createFile_readable db now storable readable types digest placed
  rw [UploadSettings.newFile_of_admitted admits] at metadata run
  rw [if_neg nofun] at run
  refine ⟨_, _, perform_map_ok rfl run, rfl, rfl, metadata, ?_, ⟨fun _ => admits, fun _ => rfl⟩,
    fun _ => ⟨rfl, rfl⟩, fun other => absurd rfl other⟩
  rw [List.append_nil]
  exact (Tables.setOutbox_same _ _).symm

/-- A file that is refused is there as well, and its event beside it. -/
theorem perform_createFile_failed (db : Database) (now : Instant) (storable : request.Storable)
    (readable : request.Readable) (types : db.uploads.policy.Storable)
    (limit : db.uploads.outbox.Storable) (fresh : s.begin.Fresh 2)
    (unnamed : (s.rows db.uploads.outbox.table).hasKey fileFailed (Uuid.ofSerial s.serial).fileKey =
      false)
    (digest : ¬MalformedSha256 request.sha256) (placed : ¬request.Misplaced s.tables)
    (refused : ¬db.uploads.policy.Admits request) :
    ∃ file entry s', s.perform ⟨db, now, .createFile request⟩ = (.ok (.file file), s') ∧
      s.Registered db.uploads request file [entry] s' := by
  obtain ⟨metadata, run⟩ := run_createFile_readable db now storable readable types digest placed
  obtain ⟨rejection, _, failed, isText⟩ :=
    UploadSettings.newFile_of_refused refused (Uuid.ofSerial s.serial) now
  rw [if_pos failed] at run
  have clean : (db.uploads.newFile (Uuid.ofSerial s.serial) request now).Clean :=
    UploadSettings.newFile_clean storable types _ now
  obtain ⟨stored, isStored⟩ : ∃ stored, UploadSettings.inTable
      (db.uploads.newFile (Uuid.ofSerial s.serial) request now) = stored := ⟨_, rfl⟩
  rw [isStored] at metadata run
  have isId : stored.id = Uuid.ofSerial s.serial := isStored ▸ rfl
  have failed : stored.status = .failed := isStored ▸ failed
  have some : stored.errorMessage ≠ "" := by
    rw [← isStored]
    exact isText ▸ UploadPolicy.text_ne_empty rejection
  have storedClean : stored.Clean := isStored ▸ clean
  have event := storedClean.event_storable (by decide : hasNull fileFailed = false) none
  have free : (s.rows db.uploads.outbox.table).hasKey fileFailed
      (stored.event fileFailed none).resolvedKey = false := by
    rwa [UploadFile.event_key, isId]
  have unused : ∀ row ∈ (s.begin.registering stored).tables.outbox db.uploads.outbox.table,
      row.id ≠ Uuid.ofSerial (s.serial + 1) := fun row member => fresh _ row member 1 (by decide)
  have emitted := UnitOfWork.emit_of_free (u := s.begin.registering stored) rfl limit event
    (Option.isSome_of_eq_some (stored.readBack?_event fileFailed none)) unused free now
  rw [Stateful.run_map, emitted] at run
  have other : stored.status ≠ .uploading := by
    rw [failed]
    decide
  refine ⟨stored, _, _, perform_map_ok rfl run, isId, isStored ▸ rfl, metadata, rfl,
    ⟨fun uploading => absurd uploading other, fun admits => absurd admits refused⟩,
    fun uploading => absurd uploading other,
    fun _ => ⟨failed, some, isStored ▸ rfl, _, rfl, rfl, rfl, ?_⟩⟩
  have told := stored.event_error fileFailed none
  rw [if_neg (by rwa [String.isEmpty_iff])] at told
  rw [OutboxSettings.payload_newEntry (stored.readBack?_event fileFailed none)]
  exact told

theorem perform_createFile_registered (db : Database) (now : Instant) (storable : request.Storable)
    (readable : request.Readable) (types : db.uploads.policy.Storable)
    (limit : db.uploads.outbox.Storable) (fresh : s.begin.Fresh 2)
    (unnamed : (s.rows db.uploads.outbox.table).hasKey fileFailed (Uuid.ofSerial s.serial).fileKey =
      false)
    (digest : ¬MalformedSha256 request.sha256) (placed : ¬request.Misplaced s.tables) :
    ∃ file events s', s.perform ⟨db, now, .createFile request⟩ = (.ok (.file file), s') ∧
      s.Registered db.uploads request file events s' := by
  by_cases admits : db.uploads.policy.Admits request
  · obtain ⟨file, s', performed, registered⟩ :=
      perform_createFile_admitted db now storable readable types digest placed admits
    exact ⟨file, [], s', performed, registered⟩
  · obtain ⟨file, entry, s', performed, registered⟩ :=
      perform_createFile_failed db now storable readable types limit fresh unnamed digest placed admits
    exact ⟨file, [entry], s', performed, registered⟩

/-- Registering a file, where the tables can hold the texts of the request and of the allowed types,
and nothing in the outbox has the new identifiers. A digest that is not one, a batch that is not there
or metadata that cannot be read back leave no trace. Otherwise the file is there: uploading, with the
type that its name tells and without an event, if the policy admits it; else failed for a reason that the
one event tells as well. No spelling of a blocked extension is admitted, and what the client claims of
the type of an admitted file changes nothing. -/
theorem file_admission (db : Database) (now : Instant) (storable : request.Storable)
    (types : db.uploads.policy.Storable) (limit : db.uploads.outbox.Storable)
    (fresh : s.begin.Fresh 2)
    (unnamed : (s.rows db.uploads.outbox.table).hasKey fileFailed (Uuid.ofSerial s.serial).fileKey =
      false) :
    let x : Transaction := ⟨db, now, .createFile request⟩
    (MalformedSha256 request.sha256 ∨ request.Misplaced s.tables →
      (∃ e, (s.perform x).1 = .error e) ∧ (s.perform x).2.tables = s.tables) ∧
    (¬MalformedSha256 request.sha256 → ¬request.Misplaced s.tables → ¬request.Readable →
      (s.perform x).1 = .error (.database .unreadable) ∧ (s.perform x).2.tables = s.tables) ∧
    (¬MalformedSha256 request.sha256 → ¬request.Misplaced s.tables → request.Readable →
      ∃ file events s', s.perform x = (.ok (.file file), s') ∧
        s.Registered db.uploads request file events s') ∧
    (db.uploads.policy.Admits request → ∀ claimed,
      s.perform ⟨db, now, .createFile { request with contentType := claimed }⟩ = s.perform x) ∧
    ∀ stem spelled, stem ≠ "" → lowercaseAscii spelled ∈ blockedExtensions →
      ¬db.uploads.policy.Admits { request with filename := stem ++ "." ++ spelled } := by
  refine ⟨perform_createFile_refused db now, perform_createFile_unreadable db now storable types,
    fun digest placed readable =>
      perform_createFile_registered db now storable readable types limit fresh unnamed digest placed,
    fun admits claimed => ?_, fun stem spelled some blocked admits =>
      admits.unblocked (blocked_of_case some blocked)⟩
  have same : (db.uploads.createFile now _ : Access UploadFile) = _ :=
    UploadSettings.createFile_claimed admits now claimed
  exact congrArg (fun created : Access UploadFile => (Reply.file <$> created).run s) same

/-- A program under the name of a picture, as the client has it. -/
theorem file_admission_disguised_program :
    let request : NewUploadFile :=
      { filename := "cat.png.eXe", contentType := some "image/png", sizeBytes := 10 }
    let policy : UploadPolicy := { allowedTypes := some ["image/png"] }
    let db : Database := { uploads := { policy } }
    let s : Store := {}
    request.Storable ∧ policy.Storable ∧ db.uploads.outbox.Storable ∧ s.begin.Fresh 2 ∧
      (s.rows .core).hasKey fileFailed (Uuid.ofSerial 0).fileKey = false ∧
      ∃ file events s', s.perform ⟨db, ⟨1767225600, 0⟩, .createFile request⟩ = (.ok (.file file), s') ∧
        s.Registered db.uploads request file events s' ∧ file.status = .failed ∧ events.length = 1 := by
  intro request policy db s
  have storable : request.Storable := ⟨by decide +kernel, nofun⟩
  have types : policy.Storable := by
    intro types isTypes
    cases isTypes
    decide
  have limit : db.uploads.outbox.Storable := OutboxSettings.default_storable
  have fresh : s.begin.Fresh 2 := after_fresh [] (by decide)
  obtain ⟨_, _, registered, _, blocked⟩ :=
    file_admission db ⟨1767225600, 0⟩ storable types limit fresh rfl
  obtain ⟨file, events, s', performed, done⟩ := registered nofun nofun nofun
  have refused : file.status ≠ .uploading := fun uploading =>
    blocked "cat.png" "eXe" (by decide) (by decide) (done.uploading_iff.mp uploading)
  obtain ⟨failed, _, _, entry, single, _⟩ := done.refused refused
  exact ⟨storable, types, limit, fresh, rfl, file, events, s', performed, done, failed,
    by rw [single]; rfl⟩

/-- Where a type is allowed that no table can hold, a refused file is not kept either: the reason
names the type. -/
theorem unstorable_type_keeps_nothing :
    let request : NewUploadFile := { filename := "a.txt", sizeBytes := 1000 }
    let policy : UploadPolicy := { allowedTypes := some ["a\u0000"] }
    let s : Store := {}
    let done := s.perform ⟨{ uploads := { policy } }, ⟨1772366400, 0⟩, .createFile request⟩
    request.Storable ∧ ¬MalformedSha256 request.sha256 ∧ ¬request.Misplaced s.tables ∧
      ¬policy.Admits request ∧ done.1.isOk = false ∧ done.2.tables.files.length = 0 := by
  intro request policy s done
  refine ⟨⟨by decide +kernel, nofun⟩, nofun, nofun, fun admits => ?_, by decide +kernel,
    by decide +kernel⟩
  have guessed : guessContentType request.filename ∉ ["a\u0000"] := by decide +kernel
  exact guessed (admits.allowed _ rfl)

end Store

end OutboxRelay
