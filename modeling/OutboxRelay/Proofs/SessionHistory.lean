import OutboxRelay.Proofs.SessionAccount

namespace OutboxRelay

/-- A session that has not changed since, the time of the last write apart. -/
def UploadSession.IsStill (later session : UploadSession) : Prop :=
  later = { session with updatedAt := later.updatedAt }

namespace UploadSession
variable {session earlier later : UploadSession}

theorem IsStill.refl (session : UploadSession) : session.IsStill session := rfl

theorem IsStill.trans (last : later.IsStill earlier) (first : earlier.IsStill session) :
    later.IsStill session := by
  unfold IsStill at *
  rw [first] at last
  exact last

theorem IsStill.status (still : later.IsStill session) : later.status = session.status :=
  (congrArg UploadSession.status (show later = _ from still) :)

/-- What was complete before is complete still. -/
theorem concluded_isStill {target : SessionStatus} (status : session.status = target)
    (now : Instant) : (session.concluded target now).IsStill session := by
  subst status
  rfl

end UploadSession

namespace Tables
variable {t t' : Tables} {serial serial' : Nat}

/-- A session that a step leaves is either new or one that was there, and if that had ended then
neither it nor its parts have changed. -/
theorem SessionStep.origin (step : t.SessionStep serial t' serial')
    (accounted : t.Accounted serial) {later : UploadSession} (member : later ∈ t'.sessions) :
    later.id = Uuid.ofSerial serial ∧ serial < serial' ∨
      ∃ earlier ∈ t.sessions, earlier.id = later.id ∧
        (earlier.status.isTerminal = true →
          later.IsStill earlier ∧ t'.partsOf earlier.id = t.partsOf earlier.id) := by
  -- A row that is as it was, when only its own parts matter.
  have same : later ∈ t.sessions → t'.partsOf later.id = t.partsOf later.id →
      ∃ earlier ∈ t.sessions, earlier.id = later.id ∧ (earlier.status.isTerminal = true →
        later.IsStill earlier ∧ t'.partsOf earlier.id = t.partsOf earlier.id) :=
    fun there parts => ⟨later, there, rfl, fun _ => ⟨.refl later, parts⟩⟩
  cases step with
  | quiet sessions parts _ => exact .inr (same (sessions ▸ member) (partsOf_congr parts _))
  | opened isNew rising _ sessions parts =>
    rw [sessions] at member
    rcases List.mem_append.mp member with old | new
    · exact .inr (same old (partsOf_congr parts _))
    · cases List.mem_singleton.mp new
      exact .inl ⟨isNew, rising⟩
  | @recorded session part now found running owner _ _ _ _ _ sessions parts _ =>
    rw [sessions] at member
    rcases mem_setSession member with rfl | ⟨old, other⟩
    · refine .inr ⟨session, mem_of_session? found, rfl, fun ended => ?_⟩
      rw [running] at ended
      cases ended
    · refine .inr (same old ?_)
      have none : [part].filter (·.sessionId = later.id) = [] :=
        List.filter_eq_nil_iff.mpr fun p new belongs => other
          ((of_decide_eq_true belongs).symm.trans ((List.mem_singleton.mp new ▸ owner :)))
      rw [partsOf, parts, List.filter_append, none, List.append_nil, partsOf]
  | @completed session now found unfailed unaborted _ sessions parts _ =>
    rw [sessions] at member
    rcases mem_setSession member with rfl | ⟨old, _⟩
    · refine .inr ⟨session, mem_of_session? found, rfl, fun ended => ⟨?_, partsOf_congr parts _⟩⟩
      refine UploadSession.concluded_isStill ?_ now
      cases status : session.status <;> simp_all [SessionStatus.isTerminal]
    · exact .inr (same old (partsOf_congr parts _))
  | @ended session target now found running _ sessions parts _ =>
    rw [sessions] at member
    rcases mem_setSession member with rfl | ⟨old, _⟩
    · refine .inr ⟨session, mem_of_session? found, rfl, fun ended => ?_⟩
      rw [running] at ended
      cases ended
    · exact .inr (same old (partsOf_congr parts _))
  | deleted ids sessions parts _ =>
    rw [sessions] at member
    refine .inr (same (mem_sessions_deleteFiles.mp member).1 ?_)
    exact (partsOf_congr parts _).trans (accounted.partsOf_deleteFiles ids member)

end Tables

namespace Store

theorem after_accounted {s : Store} (accounted : s.tables.Accounted s.serial)
    (run : List Transaction) (room : (s.after run).serial ≤ 2 ^ 128) :
    (s.after run).tables.Accounted (s.after run).serial := by
  induction run generalizing s with
  | nil => exact accounted
  | cons x rest ih =>
    have between := ((s.perform x).2.serial_le_after rest).trans room
    exact ih (accounted.step (s.perform_sessions x) between) room

/-- A session that has ended stays as it is for as long as it is there, and so do its parts. -/
theorem after_isStill {s : Store} (accounted : s.tables.Accounted s.serial)
    (run : List Transaction) (room : (s.after run).serial ≤ 2 ^ 128) {session : UploadSession}
    (member : session ∈ s.tables.sessions) (ended : session.status.isTerminal = true)
    {later : UploadSession} (there : later ∈ (s.after run).tables.sessions)
    (same : later.id = session.id) :
    later.IsStill session ∧ (s.after run).tables.partsOf session.id = s.tables.partsOf session.id := by
  induction run using List.reverseRecOn generalizing later with
  | nil =>
    cases accounted.eq_of_id there member same
    exact ⟨.refl session, rfl⟩
  | append_singleton before x ih =>
    rw [after_append, after_cons, after_nil] at there room ⊢
    have early := (((s.after before).serial_le_perform x).trans room)
    have kept := after_accounted accounted before early
    rcases ((s.after before).perform_sessions x).origin kept there with
      ⟨isNew, rising⟩ | ⟨earlier, inBefore, sameId, frozen⟩
    · obtain ⟨number, issued, isNumber⟩ := accounted.issued session member
      have first := s.serial_le_after before
      exact absurd (isNumber.symm.trans (same.symm.trans isNew))
        (Uuid.ofSerial_ne (by omega) (by omega))
    · obtain ⟨still, parts⟩ := ih early inBefore (sameId.trans same)
      have stillEnded : earlier.status.isTerminal = true := by rw [still.status, ended]
      obtain ⟨lastStill, lastParts⟩ := frozen stillEnded
      rw [sameId.trans same] at lastParts
      exact ⟨lastStill.trans still, lastParts.trans parts⟩

/-- Whatever calls were made, every session keeps account of its parts; and whatever calls follow,
a session that has ended stays as it is, with the same parts, for as long as it is there. -/
theorem sessions_accounted (run rest : List Transaction)
    (room : (({} : Store).after (run ++ rest)).serial ≤ 2 ^ 128) :
    ∀ session ∈ (({} : Store).after run).tables.sessions,
      session.Accounted ((({} : Store).after run).tables.sessionParts session.id) ∧
        (session.status.isTerminal = true →
          ∀ later ∈ (({} : Store).after (run ++ rest)).tables.sessions, later.id = session.id →
            later.IsStill session ∧
              (({} : Store).after (run ++ rest)).tables.sessionParts session.id =
                (({} : Store).after run).tables.sessionParts session.id) := by
  rw [after_append] at room ⊢
  have early := ((({} : Store).after run).serial_le_after rest).trans room
  have accounted := after_accounted Tables.Accounted.empty run early
  intro session member
  refine ⟨?_, fun ended later there same => ?_⟩
  · exact (accounted.accounts session member).perm (Tables.sessionParts_perm _ _).symm
  · obtain ⟨still, parts⟩ := after_isStill accounted rest room member ended there same
    exact ⟨still, Tables.sessionParts_congr parts⟩

/-- The theorem about a file of ten octets in two chunks, the second of which comes first, and
another attempt to record one. -/
theorem sessions_accounted_two_chunks :
    let time : Instant := ⟨1767225600, 0⟩
    let call : Call → Transaction := fun call => ⟨{}, time, call⟩
    let part : Int → Call := fun number =>
      .recordPart (Uuid.ofSerial 1) { partNumber := number, offsetBytes := 0, sizeBytes := 5 }
    let run := [call (.createFile { filename := "a.txt", sizeBytes := 10 }),
      call (.createSession .nil (Uuid.ofSerial 0) 10 (some 5)), call (part 2), call (part 1),
      call (.completeSession (Uuid.ofSerial 1))]
    let rest := [call (part 1), call (.abortSession (Uuid.ofSerial 1))]
    (({} : Store).after (run ++ rest)).serial ≤ 2 ^ 128 ∧
      ∃ session ∈ (({} : Store).after run).tables.sessions, session.status = .complete ∧
        session.completedParts = 2 ∧ session.bytesReceived = 10 ∧
        session.Accounted ((({} : Store).after run).tables.sessionParts session.id) ∧
        ∃ later ∈ (({} : Store).after (run ++ rest)).tables.sessions, later.IsStill session := by
  intro time call part run rest
  have room : (({} : Store).after (run ++ rest)).serial ≤ 2 ^ 128 := by decide +kernel
  obtain ⟨session, member, status, completed, received, isFirst⟩ :
      ∃ session ∈ (({} : Store).after run).tables.sessions, session.status = .complete ∧
        session.completedParts = 2 ∧ session.bytesReceived = 10 ∧
        session.id = Uuid.ofSerial 1 := by decide +kernel
  obtain ⟨later, there, same⟩ : ∃ later ∈ (({} : Store).after (run ++ rest)).tables.sessions,
      later.id = Uuid.ofSerial 1 := by decide +kernel
  obtain ⟨accounted, frozen⟩ := sessions_accounted run rest room session member
  have ended : session.status.isTerminal = true := by
    rw [status]
    rfl
  obtain ⟨still, _⟩ := frozen ended later there (same.trans isFirst.symm)
  exact ⟨room, session, member, status, completed, received, accounted, later, there, still⟩

end Store

end OutboxRelay
