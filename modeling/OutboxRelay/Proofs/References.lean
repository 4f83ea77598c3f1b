import Mathlib.Data.List.Nodup
import OutboxRelay.Proofs.SessionAccount

namespace OutboxRelay

/-- How the rows of uploads refer to each other: batches, files with the batch that each is in,
sessions with the file of each, and the session of every part. -/
structure Links where
  batches : List Uuid
  files : List (Uuid × Option Uuid)
  sessions : List (Uuid × Uuid)
  parts : List Uuid

namespace Links

def fileIds (l : Links) : List Uuid := l.files.map (·.1)

def sessionIds (l : Links) : List Uuid := l.sessions.map (·.1)

/-- The files that have a session. -/
def openedFiles (l : Links) : List Uuid := l.sessions.map (·.2)

/-- What a foreign key of the next table leads to goes with it. -/
def delete (l : Links) (ids : List Uuid) : Links :=
  let gone := (l.sessions.filter fun s => ids.contains s.2).map (·.1)
  { l with
    files := l.files.filter fun f => !ids.contains f.1
    sessions := l.sessions.filter fun s => !ids.contains s.2
    parts := l.parts.filter fun p => !gone.contains p }

/-- Every key leads to a row, no row has the identifier of another, and no file has two sessions.
The first `serial` identifiers are in use. -/
structure Sound (l : Links) (serial : Nat) : Prop where
  filesDistinct : l.fileIds.Nodup
  sessionsDistinct : l.sessionIds.Nodup
  filesIssued : ∀ id ∈ l.fileIds, ∃ number < serial, id = Uuid.ofSerial number
  sessionsIssued : ∀ id ∈ l.sessionIds, ∃ number < serial, id = Uuid.ofSerial number
  batched : ∀ file ∈ l.files, ∀ batch, file.2 = some batch → batch ∈ l.batches
  opened : ∀ file ∈ l.openedFiles, file ∈ l.fileIds
  single : l.openedFiles.Nodup
  owned : ∀ session ∈ l.parts, session ∈ l.sessionIds

/-- What one call can do to the references. -/
inductive Step (l : Links) (serial : Nat) : Links → Nat → Prop
  | kept {serial'} : serial ≤ serial' → Step l serial l serial'
  | batch (id : Uuid) {serial'} : serial ≤ serial' →
      Step l serial { l with batches := l.batches ++ [id] } serial'
  | file {batch : Option Uuid} {serial'} : (∀ id, batch = some id → id ∈ l.batches) →
      serial < serial' → Step l serial { l with files := l.files ++ [(.ofSerial serial, batch)] } serial'
  | session {file : Uuid} {serial'} : file ∈ l.fileIds → file ∉ l.openedFiles → serial < serial' →
      Step l serial { l with sessions := l.sessions ++ [(.ofSerial serial, file)] } serial'
  | part {session : Uuid} {serial'} : session ∈ l.sessionIds → serial ≤ serial' →
      Step l serial { l with parts := l.parts ++ [session] } serial'
  | deleted (ids : List Uuid) {serial'} : serial ≤ serial' → Step l serial (l.delete ids) serial'

variable {l l' : Links} {serial serial' : Nat}

theorem Sound.empty : Sound ⟨[], [], [], []⟩ 0 :=
  ⟨.nil, .nil, List.forall_mem_nil _, List.forall_mem_nil _, List.forall_mem_nil _,
    List.forall_mem_nil _, .nil, List.forall_mem_nil _⟩

theorem issued_mono {ids : List Uuid} (issued : ∀ id ∈ ids, ∃ number < serial, id = Uuid.ofSerial number)
    (rising : serial ≤ serial') : ∀ id ∈ ids, ∃ number < serial', id = Uuid.ofSerial number := by
  intro id member
  obtain ⟨number, before, same⟩ := issued id member
  exact ⟨number, by omega, same⟩

theorem issued_append {ids : List Uuid}
    (issued : ∀ id ∈ ids, ∃ number < serial, id = Uuid.ofSerial number)
    (rising : serial < serial') :
    ∀ id ∈ ids ++ [Uuid.ofSerial serial], ∃ number < serial', id = Uuid.ofSerial number := by
  intro id member
  rcases List.mem_append.mp member with old | new
  · exact issued_mono issued (by omega) id old
  · exact ⟨serial, rising, List.mem_singleton.mp new⟩

/-- The next identifier is none of those in use. -/
theorem nodup_append {ids : List Uuid} (distinct : ids.Nodup)
    (issued : ∀ id ∈ ids, ∃ number < serial, id = Uuid.ofSerial number)
    (room : serial < 2 ^ 128) : (ids ++ [Uuid.ofSerial serial]).Nodup := by
  refine List.nodup_append'.mpr ⟨distinct, List.nodup_singleton _, ?_⟩
  rw [List.disjoint_singleton]
  intro member
  obtain ⟨number, before, same⟩ := issued _ member
  exact Uuid.ofSerial_ne before room same.symm

theorem Sound.mono (sound : l.Sound serial) (rising : serial ≤ serial') : l.Sound serial' :=
  { sound with
    filesIssued := issued_mono sound.filesIssued rising
    sessionsIssued := issued_mono sound.sessionsIssued rising }

theorem Sound.batch (sound : l.Sound serial) (id : Uuid) :
    Sound { l with batches := l.batches ++ [id] } serial :=
  { sound with
    batched := fun file member batch named =>
      List.mem_append_left _ (sound.batched file member batch named) }

theorem Sound.file {batch : Option Uuid} (sound : l.Sound serial)
    (there : ∀ id, batch = some id → id ∈ l.batches) (rising : serial < serial')
    (room : serial' ≤ 2 ^ 128) :
    Sound { l with files := l.files ++ [(.ofSerial serial, batch)] } serial' := by
  have ids : fileIds { l with files := l.files ++ [(.ofSerial serial, batch)] } =
      l.fileIds ++ [Uuid.ofSerial serial] := List.map_append
  refine ⟨?_, sound.sessionsDistinct, ?_, issued_mono sound.sessionsIssued (by omega), ?_, ?_,
    sound.single, sound.owned⟩
  · rw [ids]
    exact nodup_append sound.filesDistinct sound.filesIssued (by omega)
  · rw [ids]
    exact issued_append sound.filesIssued rising
  · intro file member id named
    rcases List.mem_append.mp member with old | new
    · exact sound.batched file old id named
    · cases List.mem_singleton.mp new
      exact there id named
  · rw [ids]
    exact fun file member => List.mem_append_left _ (sound.opened file member)

theorem Sound.session {file : Uuid} (sound : l.Sound serial) (there : file ∈ l.fileIds)
    (free : file ∉ l.openedFiles) (rising : serial < serial') (room : serial' ≤ 2 ^ 128) :
    Sound { l with sessions := l.sessions ++ [(.ofSerial serial, file)] } serial' := by
  have ids : sessionIds { l with sessions := l.sessions ++ [(.ofSerial serial, file)] } =
      l.sessionIds ++ [Uuid.ofSerial serial] := List.map_append
  have files : openedFiles { l with sessions := l.sessions ++ [(.ofSerial serial, file)] } =
      l.openedFiles ++ [file] := List.map_append
  refine ⟨sound.filesDistinct, ?_, issued_mono sound.filesIssued (by omega), ?_, sound.batched, ?_,
    ?_, ?_⟩
  · rw [ids]
    exact nodup_append sound.sessionsDistinct sound.sessionsIssued (by omega)
  · rw [ids]
    exact issued_append sound.sessionsIssued rising
  · rw [files]
    intro other member
    rcases List.mem_append.mp member with old | new
    · exact sound.opened other old
    · exact List.mem_singleton.mp new ▸ there
  · rw [files]
    exact List.nodup_append'.mpr
      ⟨sound.single, List.nodup_singleton _, List.disjoint_singleton.mpr free⟩
  · rw [ids]
    exact fun session member => List.mem_append_left _ (sound.owned session member)

theorem Sound.part {session : Uuid} (sound : l.Sound serial) (there : session ∈ l.sessionIds) :
    Sound { l with parts := l.parts ++ [session] } serial :=
  { sound with
    owned := fun other member => by
      rcases List.mem_append.mp member with old | new
      · exact sound.owned other old
      · exact List.mem_singleton.mp new ▸ there }

/-- No orphan survives a deletion: the session that a part is left with was not of a file that is
gone, and so the file that it is left with is there. -/
theorem Sound.delete (sound : l.Sound serial) (ids : List Uuid) : (l.delete ids).Sound serial := by
  have files : (l.delete ids).fileIds.Sublist l.fileIds := List.filter_sublist.map _
  have sessions : (l.delete ids).sessionIds.Sublist l.sessionIds := List.filter_sublist.map _
  have opened : (l.delete ids).openedFiles.Sublist l.openedFiles := List.filter_sublist.map _
  refine ⟨sound.filesDistinct.sublist files, sound.sessionsDistinct.sublist sessions,
    fun id member => sound.filesIssued id (files.subset member),
    fun id member => sound.sessionsIssued id (sessions.subset member),
    fun file member => sound.batched file (List.mem_of_mem_filter member), ?_,
    sound.single.sublist opened, ?_⟩
  · intro file member
    obtain ⟨session, there, rfl⟩ := List.mem_map.mp member
    obtain ⟨inSessions, kept⟩ := List.mem_filter.mp there
    obtain ⟨row, inFiles, same⟩ :=
      List.mem_map.mp (sound.opened session.2 (List.mem_map_of_mem inSessions))
    refine List.mem_map.mpr ⟨row, List.mem_filter.mpr ⟨inFiles, ?_⟩, same⟩
    rw [same]
    exact kept
  · intro id member
    obtain ⟨inParts, kept⟩ := List.mem_filter.mp member
    obtain ⟨session, inSessions, rfl⟩ := List.mem_map.mp (sound.owned id inParts)
    refine List.mem_map_of_mem (List.mem_filter.mpr ⟨inSessions, ?_⟩)
    rw [Bool.not_eq_true', List.contains_eq_mem, decide_eq_false_iff_not] at kept ⊢
    refine fun gone => kept (List.mem_map_of_mem (List.mem_filter.mpr ⟨inSessions, ?_⟩))
    rwa [List.contains_eq_mem, decide_eq_true_eq]

theorem Sound.step (sound : l.Sound serial) (step : l.Step serial l' serial')
    (room : serial' ≤ 2 ^ 128) : l'.Sound serial' := by
  cases step with
  | kept rising => exact sound.mono rising
  | batch id rising => exact (sound.batch id).mono rising
  | file there rising => exact sound.file there rising room
  | session there free rising => exact sound.session there free rising room
  | part there rising => exact (sound.part there).mono rising
  | deleted ids rising => exact (sound.delete ids).mono rising

end Links

namespace Tables
variable {t t' : Tables} {serial : Nat}

end Tables

namespace Store

end Store

end OutboxRelay
