import Mathlib.Data.Int.Interval
import Mathlib.Data.List.Pairwise
import OutboxRelay.Proofs.SessionStep
import OutboxRelay.Proofs.Tracking

namespace OutboxRelay

/-- A session that keeps account of its parts. -/
structure UploadSession.Accounted (session : UploadSession) (parts : List UploadPart) : Prop where
  planned : session.Planned
  inRange : ∀ part ∈ parts, 1 ≤ part.partNumber ∧ part.partNumber ≤ session.totalParts
  distinct : (parts.map (·.partNumber)).Nodup
  received : ∀ part ∈ parts, part.status = .received
  counted : session.completedParts = parts.length
  summed : session.bytesReceived = (parts.map (·.sizeBytes)).sum
  fits : fitsInt64 session.bytesReceived = true
  unopened : session.status = .init → parts = []
  opened : session.status = .inProgress → parts ≠ []
  complete : session.status = .complete →
    ∀ number, (∃ part ∈ parts, part.partNumber = number) ↔ 1 ≤ number ∧ number ≤ session.totalParts

namespace UploadSession
variable {session : UploadSession} {parts : List UploadPart}

/-- The order of the parts does not matter. -/
theorem Accounted.perm {parts' : List UploadPart} (accounted : session.Accounted parts)
    (same : parts.Perm parts') : session.Accounted parts' where
  planned := accounted.planned
  inRange part member := accounted.inRange part (same.mem_iff.mpr member)
  distinct := (same.map _).nodup_iff.mp accounted.distinct
  received part member := accounted.received part (same.mem_iff.mpr member)
  counted := accounted.counted.trans (congrArg Nat.cast same.length_eq)
  summed := accounted.summed.trans (same.map _).sum_eq
  fits := accounted.fits
  unopened status := by
    have empty := accounted.unopened status
    subst empty
    exact same.nil_eq.symm
  opened status empty := by
    subst empty
    exact accounted.opened status same.eq_nil
  complete status number := by
    simp only [← same.mem_iff]
    exact accounted.complete status number

theorem Opened.accounted (opened : session.Opened) : session.Accounted [] where
  planned := opened.planned
  inRange := List.forall_mem_nil _
  distinct := .nil
  received := List.forall_mem_nil _
  counted := opened.completed
  summed := opened.received
  fits := by
    rw [opened.received]
    rfl
  unopened _ := rfl
  opened status := absurd (opened.status.symm.trans status) nofun
  complete status := absurd (opened.status.symm.trans status) nofun

theorem Accounted.advanced {part : UploadPart} (accounted : session.Accounted parts)
    (now : Instant) (status : part.status = .received)
    (low : 1 ≤ part.partNumber) (high : part.partNumber ≤ session.totalParts)
    (free : ∀ other ∈ parts, other.partNumber ≠ part.partNumber)
    (fits : fitsInt64 (session.bytesReceived + part.sizeBytes) = true) :
    (session.advanced part.sizeBytes now).Accounted (parts ++ [part]) where
  planned := ⟨accounted.planned.chunk, accounted.planned.total, accounted.planned.parts⟩
  inRange other member := by
    rcases List.mem_append.mp member with old | new
    · exact accounted.inRange other old
    · cases List.mem_singleton.mp new
      exact ⟨low, high⟩
  distinct := by
    rw [List.map_append, List.nodup_append]
    refine ⟨accounted.distinct, List.nodup_singleton _, fun number old number' new => ?_⟩
    obtain ⟨other, member, rfl⟩ := List.mem_map.mp old
    exact List.mem_singleton.mp new ▸ free other member
  received other member := by
    rcases List.mem_append.mp member with old | new
    · exact accounted.received other old
    · exact List.mem_singleton.mp new ▸ status
  counted := by
    rw [UploadSession.advanced, accounted.counted, List.length_append]
    rfl
  summed := by
    rw [UploadSession.advanced, accounted.summed, List.map_append, List.sum_append,
      List.map_singleton, List.sum_singleton]
  fits := fits
  unopened := nofun
  opened _ := List.append_ne_nil_of_right_ne_nil _ (List.cons_ne_nil _ _)
  complete := nofun

/-- Numbers in range that are all different, and as many as the range has, are all of them. -/
theorem Accounted.numbers_of_count (accounted : session.Accounted parts)
    (enough : session.totalParts ≤ parts.length) (number : Int) :
    (∃ part ∈ parts, part.partNumber = number) ↔ 1 ≤ number ∧ number ≤ session.totalParts := by
  have within : (parts.map (·.partNumber)).toFinset ⊆ Finset.Icc 1 session.totalParts := by
    intro number member
    obtain ⟨part, there, rfl⟩ := List.mem_map.mp (List.mem_toFinset.mp member)
    exact Finset.mem_Icc.mpr (accounted.inRange part there)
  have size : (Finset.Icc 1 session.totalParts).card ≤ (parts.map (·.partNumber)).toFinset.card := by
    rw [Int.card_Icc, List.toFinset_card_of_nodup accounted.distinct, List.length_map]
    omega
  rw [← Finset.mem_Icc, ← Finset.eq_of_subset_of_card_le within size, List.mem_toFinset,
    List.mem_map]

theorem Accounted.completed (accounted : session.Accounted parts) (now : Instant)
    (enough : session.totalParts ≤ parts.countP (·.status = .received)) :
    (session.concluded .complete now).Accounted parts where
  planned := ⟨accounted.planned.chunk, accounted.planned.total, accounted.planned.parts⟩
  inRange := accounted.inRange
  distinct := accounted.distinct
  received := accounted.received
  counted := accounted.counted
  summed := accounted.summed
  fits := accounted.fits
  unopened := nofun
  opened := nofun
  complete _ := by
    have all : parts.countP (·.status = .received) = parts.length :=
      List.countP_eq_length.mpr fun part member => decide_eq_true (accounted.received part member)
    rw [all] at enough
    exact accounted.numbers_of_count enough

theorem Accounted.ended {target : SessionStatus} (accounted : session.Accounted parts)
    (now : Instant) (ending : target = .failed ∨ target = .aborted) :
    (session.concluded target now).Accounted parts where
  planned := ⟨accounted.planned.chunk, accounted.planned.total, accounted.planned.parts⟩
  inRange := accounted.inRange
  distinct := accounted.distinct
  received := accounted.received
  counted := accounted.counted
  summed := accounted.summed
  fits := accounted.fits
  unopened status := by rcases ending with rfl | rfl <;> cases status
  opened status := by rcases ending with rfl | rfl <;> cases status
  complete status := by rcases ending with rfl | rfl <;> cases status

end UploadSession

namespace Tables

/-- Sessions and parts that belong together, when `serial` counts the identifiers in use. -/
structure Accounted (t : Tables) (serial : Nat) : Prop where
  distinct : t.sessions.Pairwise fun a b => a.id ≠ b.id
  issued : ∀ session ∈ t.sessions, ∃ number < serial, session.id = Uuid.ofSerial number
  owned : ∀ part ∈ t.parts, ∃ session ∈ t.sessions, session.id = part.sessionId
  accounts : ∀ session ∈ t.sessions, session.Accounted (t.partsOf session.id)

variable {t t' : Tables} {serial serial' : Nat}

theorem Accounted.empty : ({} : Tables).Accounted 0 :=
  ⟨.nil, List.forall_mem_nil _, List.forall_mem_nil _, List.forall_mem_nil _⟩

theorem Accounted.eq_of_id (accounted : t.Accounted serial) {a b : UploadSession}
    (inA : a ∈ t.sessions) (inB : b ∈ t.sessions) (same : a.id = b.id) : a = b := by
  have symmetric : Std.Symm fun a b : UploadSession => a.id ≠ b.id := ⟨fun _ _ ne => ne.symm⟩
  exact Classical.byContradiction fun different =>
    accounted.distinct.forall inA inB different same

theorem mem_of_session? {id : Uuid} {session : UploadSession} (found : t.session? id = some session) :
    session ∈ t.sessions :=
  List.mem_of_find?_eq_some found

theorem partsOf_congr (parts : t'.parts = t.parts) (session : Uuid) :
    t'.partsOf session = t.partsOf session := by
  rw [partsOf, partsOf, parts]

/-- What is written to a session reaches no other. -/
theorem mem_setSession {changed row : UploadSession}
    (member : row ∈ (t.setSession changed).sessions) :
    row = changed ∨ row ∈ t.sessions ∧ row.id ≠ changed.id := by
  obtain ⟨old, there, rfl⟩ := List.mem_map.mp member
  split
  · exact .inl rfl
  · exact .inr ⟨there, ‹_›⟩

theorem Accounted.quiet (accounted : t.Accounted serial) (sessions : t'.sessions = t.sessions)
    (parts : t'.parts = t.parts) (rising : serial ≤ serial') : t'.Accounted serial' where
  distinct := sessions ▸ accounted.distinct
  issued session member := by
    rw [sessions] at member
    obtain ⟨number, before, same⟩ := accounted.issued session member
    exact ⟨number, by omega, same⟩
  owned := by
    rw [sessions, parts]
    exact accounted.owned
  accounts session member := by
    rw [sessions] at member
    rw [partsOf_congr parts]
    exact accounted.accounts session member

theorem Accounted.opened {session : UploadSession} (accounted : t.Accounted serial)
    (isNew : session.id = Uuid.ofSerial serial) (rising : serial < serial')
    (opened : session.Opened) (sessions : t'.sessions = t.sessions ++ [session])
    (parts : t'.parts = t.parts) (room : serial' ≤ 2 ^ 128) : t'.Accounted serial' := by
  have other : ∀ row ∈ t.sessions, row.id ≠ session.id := by
    intro row member same
    obtain ⟨number, before, isNumber⟩ := accounted.issued row member
    exact Uuid.ofSerial_ne before (by omega) (isNumber.symm.trans (same.trans isNew))
  have none : t.partsOf session.id = [] := by
    refine List.filter_eq_nil_iff.mpr fun part member belongs => ?_
    obtain ⟨row, there, same⟩ := accounted.owned part member
    exact other row there (same.trans (of_decide_eq_true belongs))
  refine ⟨?_, ?_, ?_, ?_⟩ <;> rw [sessions]
  · exact List.pairwise_append.mpr ⟨accounted.distinct, List.pairwise_singleton _ _,
      fun row member _ isNew => List.mem_singleton.mp isNew ▸ other row member⟩
  · intro row member
    rcases List.mem_append.mp member with old | new
    · obtain ⟨number, before, same⟩ := accounted.issued row old
      exact ⟨number, by omega, same⟩
    · exact ⟨serial, rising, List.mem_singleton.mp new ▸ isNew⟩
  · intro part member
    rw [parts] at member
    obtain ⟨row, there, same⟩ := accounted.owned part member
    exact ⟨row, List.mem_append_left _ there, same⟩
  · intro row member
    rw [partsOf_congr parts]
    rcases List.mem_append.mp member with old | new
    · exact accounted.accounts row old
    · cases List.mem_singleton.mp new
      rw [none]
      exact opened.accounted

/-- A session that is written to, with `more` parts that come to it. -/
theorem Accounted.changed {changed : UploadSession} {more : List UploadPart}
    (accounted : t.Accounted serial) (sessions : t'.sessions = (t.setSession changed).sessions)
    (there : ∃ session ∈ t.sessions, session.id = changed.id) (parts : t'.parts = t.parts ++ more)
    (belong : ∀ part ∈ more, part.sessionId = changed.id)
    (account : changed.Accounted (t.partsOf changed.id ++ more)) (rising : serial ≤ serial') :
    t'.Accounted serial' := by
  obtain ⟨session, inSessions, sameId⟩ := there
  have ids : ∀ row : UploadSession,
      (if row.id = changed.id then changed else row).id = row.id := by
    intro row
    split
    · exact Eq.symm ‹_›
    · rfl
  have members : ∀ row ∈ t.sessions, ∃ row' ∈ t'.sessions, row'.id = row.id := fun row member =>
    ⟨_, by rw [sessions]; exact List.mem_map_of_mem member, ids row⟩
  refine ⟨?_, ?_, ?_, ?_⟩
  · rw [sessions, setSession, List.pairwise_map]
    exact accounted.distinct.imp fun {a b} different => by rwa [ids a, ids b]
  · intro row member
    rw [sessions] at member
    obtain ⟨old, there, rfl⟩ := List.mem_map.mp member
    obtain ⟨number, before, same⟩ := accounted.issued old there
    exact ⟨number, by omega, (ids old).trans same⟩
  · intro part member
    rw [parts] at member
    rcases List.mem_append.mp member with old | new
    · obtain ⟨row, there, same⟩ := accounted.owned part old
      obtain ⟨row', there', same'⟩ := members row there
      exact ⟨row', there', same'.trans same⟩
    · obtain ⟨row', there', same'⟩ := members session inSessions
      exact ⟨row', there', same'.trans (sameId.trans (belong part new).symm)⟩
  · intro row member
    rw [sessions] at member
    rw [partsOf, parts, List.filter_append]
    rcases mem_setSession member with rfl | ⟨old, other⟩
    · have all : more.filter (·.sessionId = row.id) = more :=
        List.filter_eq_self.mpr fun part new => decide_eq_true (belong part new)
      rwa [all]
    · have none : more.filter (·.sessionId = row.id) = [] :=
        List.filter_eq_nil_iff.mpr fun part new belongs =>
          other ((of_decide_eq_true belongs).symm.trans (belong part new))
      rw [none, List.append_nil]
      exact accounted.accounts row old

theorem Accounted.rewritten {changed : UploadSession} (accounted : t.Accounted serial)
    (sessions : t'.sessions = (t.setSession changed).sessions)
    (there : ∃ session ∈ t.sessions, session.id = changed.id) (parts : t'.parts = t.parts)
    (account : changed.Accounted (t.partsOf changed.id)) (rising : serial ≤ serial') :
    t'.Accounted serial' :=
  accounted.changed sessions there (parts.trans (List.append_nil _).symm) (List.forall_mem_nil _)
    ((List.append_nil _).symm ▸ account) rising

theorem mem_sessions_deleteFiles {ids : List Uuid} {session : UploadSession} :
    session ∈ (t.deleteFiles ids).sessions ↔ session ∈ t.sessions ∧ session.fileId ∉ ids := by
  rw [deleteFiles, List.mem_filter, Bool.not_eq_true', List.contains_eq_mem, decide_eq_false_iff_not]

theorem mem_parts_deleteFiles {ids : List Uuid} {part : UploadPart} :
    part ∈ (t.deleteFiles ids).parts ↔
      part ∈ t.parts ∧ ∀ session ∈ t.sessions, session.id = part.sessionId → session.fileId ∉ ids := by
  rw [deleteFiles, List.mem_filter, Bool.not_eq_true', List.contains_eq_mem, decide_eq_false_iff_not]
  simp only [List.mem_map, List.mem_filter, List.contains_eq_mem, decide_eq_true_eq, not_exists,
    not_and]
  exact and_congr_right fun _ => forall_congr' fun _ =>
    ⟨fun kept there same gone => kept ⟨there, gone⟩ same,
      fun kept ⟨there, gone⟩ same => kept there same gone⟩

/-- A deletion that leaves a session leaves all its parts. -/
theorem Accounted.partsOf_deleteFiles (accounted : t.Accounted serial) (ids : List Uuid)
    {session : UploadSession} (member : session ∈ (t.deleteFiles ids).sessions) :
    (t.deleteFiles ids).partsOf session.id = t.partsOf session.id := by
  obtain ⟨there, kept⟩ := mem_sessions_deleteFiles.mp member
  rw [partsOf, partsOf, deleteFiles, List.filter_filter]
  refine List.filter_congr fun part inParts => ?_
  by_cases belongs : part.sessionId = session.id
  · have stays : part ∈ (t.deleteFiles ids).parts := by
      refine mem_parts_deleteFiles.mpr ⟨inParts, fun row inRows same => ?_⟩
      rwa [accounted.eq_of_id inRows there (same.trans belongs)]
    rw [(List.mem_filter.mp stays).2, Bool.and_true]
  · simp only [belongs, decide_false, Bool.false_and]

theorem Accounted.deleted (accounted : t.Accounted serial) (ids : List Uuid)
    (sessions : t'.sessions = (t.deleteFiles ids).sessions)
    (parts : t'.parts = (t.deleteFiles ids).parts) (rising : serial ≤ serial') :
    t'.Accounted serial' := by
  refine Accounted.quiet (t := t.deleteFiles ids) ⟨?_, ?_, ?_, ?_⟩ sessions parts rising
  · exact accounted.distinct.sublist List.filter_sublist
  · exact fun session member => accounted.issued session (List.mem_of_mem_filter member)
  · intro part member
    obtain ⟨there, kept⟩ := mem_parts_deleteFiles.mp member
    obtain ⟨session, inSessions, same⟩ := accounted.owned part there
    exact ⟨session, mem_sessions_deleteFiles.mpr ⟨inSessions, kept session inSessions same⟩, same⟩
  · intro session member
    rw [accounted.partsOf_deleteFiles ids member]
    exact accounted.accounts session (List.mem_of_mem_filter member)

theorem Accounted.step (accounted : t.Accounted serial)
    (step : t.SessionStep serial t' serial') (room : serial' ≤ 2 ^ 128) :
    t'.Accounted serial' := by
  cases step with
  | quiet sessions parts rising => exact accounted.quiet sessions parts rising
  | opened isNew rising opened sessions parts =>
    exact accounted.opened isNew rising opened sessions parts room
  | @recorded session part now found running owner status low high free fits sessions parts rising =>
    have there := mem_of_session? found
    have account := (accounted.accounts session there).advanced now status low high free fits
    exact accounted.changed sessions ⟨session, there, rfl⟩ parts
      (List.forall_mem_singleton.mpr owner) account rising
  | @completed session now found unfailed unaborted enough sessions parts rising =>
    have there := mem_of_session? found
    have account := (accounted.accounts session there).completed now enough
    exact accounted.rewritten sessions ⟨session, there, rfl⟩ parts account rising
  | @ended session target now found running ending sessions parts rising =>
    have there := mem_of_session? found
    have account := (accounted.accounts session there).ended now ending
    exact accounted.rewritten sessions ⟨session, there, rfl⟩ parts account rising
  | deleted ids sessions parts rising => exact accounted.deleted ids sessions parts rising

end Tables

end OutboxRelay
