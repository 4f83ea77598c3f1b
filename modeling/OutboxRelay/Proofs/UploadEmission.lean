import OutboxRelay.Proofs.Emission

namespace OutboxRelay

theorem reportMiss_emits {α : Type} {table : OutboxTable} (entity : String) (id : Uuid)
    (isThere : Tables → Bool) (expected : String) :
    Work.Emits table (reportMiss entity id isThere expected : Work α) :=
  Work.emits_tables_bind fun t => Work.emits_throw _ t

namespace UploadSettings
variable {table : OutboxTable} {t : Tables}

theorem createBatch_emits (now : Instant) (createdBy : Option Uuid) (key : Option String) :
    Work.Emits table (createBatch now createdBy key) := by
  intro _
  refine .bind_freshId fun id => ?_
  refine .bind_lift fun _ => ?_
  refine Work.emits_tables_bind (fun t => ?_) _
  exact .bind_setTables (Tables.outbox_congr rfl rfl table) (Work.emits_pure _)

theorem advanceBatch_emits (now : Instant) (id : Uuid) :
    Work.Emits table (advanceBatch now id) := by
  refine Work.emits_tables_bind fun t => ?_
  split
  · exact .bind_setTables (Tables.outbox_congr rfl rfl table) (Work.emits_pure _)
  · exact Work.emits_pure _ t

theorem startBatch_emits (now : Instant) (id : Uuid) : Work.Emits table (startBatch now id) := by
  refine (advanceBatch_emits now id).bind fun started => ?_
  split
  · exact Work.emits_pure _
  · exact reportMiss_emits _ _ _ _

theorem absorbDuplicate_eq_ok {work : Work OutboxEntry} {u v : UnitOfWork}
    (run : (absorbDuplicate work).run u = (.ok (), v)) :
    (∃ entry, work.run u = (.ok entry, v)) ∨
      ∃ eventType key, work.run u = (.error (.duplicateEvent eventType key), v) := by
  change absorbDuplicate work u = _ at run
  unfold absorbDuplicate at run
  rcases begun : work.run u with ⟨e | entry, w⟩
  · rw [begun] at run
    split at run
    · rename_i same
      cases same
      cases run
      exact .inr ⟨_, _, rfl⟩
    · cases run
    · cases run
      exact .inl ⟨_, by assumption⟩
  · rw [begun] at run
    cases run
    exact .inl ⟨entry, rfl⟩

theorem absorbDuplicate_emits (settings : OutboxSettings) (now : Instant) (event : NewOutboxEvent) :
    Work.Emits table (absorbDuplicate (settings.emit now event)) := by
  have emits := settings.emit_emits now event table
  refine fun t => ⟨fun u same => ?_, fun u v _ same run => ?_⟩
  · have begun := (emits t).serial_le u same
    change u.serial ≤ (absorbDuplicate _ u).2.serial
    unfold absorbDuplicate
    split <;> simpa only [*] using begun
  · rcases absorbDuplicate_eq_ok run with ⟨entry, done⟩ | ⟨eventType, key, taken⟩
    · exact (emits t).emitted u v entry same done
    · rw [settings.emit_eq_duplicate now event taken]
      exact .quiet (Nat.le_succ _)

theorem finalizeBatch_emits (settings : UploadSettings) (now : Instant) (id : Uuid) :
    Work.Emits table (settings.finalizeBatch now id) := by
  refine Work.emits_tables_bind fun t => ?_
  split
  · exact Work.emits_throw _ t
  · rename_i batch found
    dsimp only
    split
    · exact Work.emits_pure _ t
    · refine .bind_setTables (Tables.outbox_congr rfl rfl table) ?_
      exact (absorbDuplicate_emits settings.outbox _ _).bind fun _ => Work.emits_pure _

theorem insertFile_emits (file : UploadFile) : Work.Emits table (insertFile file) := by
  have put : ∀ t, Work.EmitsFrom table t (do
      Work.setTables { t with files := t.files ++ [inTable file] }
      if file.metadata.readBack?.isNone then throw (.database .unreadable)
      return inTable file) := by
    intro t
    refine .bind_setTables (Tables.outbox_congr rfl rfl table) ?_
    split
    · exact fun _ => .bind_throw _
    · exact Work.emits_pure _
  intro _
  refine .bind_lift fun _ => ?_
  dsimp only
  split
  · exact .bind_throw _
  · refine Work.emits_tables_bind (fun t => ?_) _
    split
    · split
      · exact .bind_throw _
      · exact put t
    · exact put t

theorem createFile_emits (settings : UploadSettings) (now : Instant) (request : NewUploadFile) :
    Work.Emits table (settings.createFile now request) := by
  intro _
  refine .bind_lift fun _ => ?_
  refine .bind_freshId fun id => ?_
  refine (insertFile_emits _).bind (fun _ => ?_) _
  split
  · exact (settings.outbox.emit_emits _ _ _).bind fun _ => Work.emits_pure _
  · exact Work.emits_pure _

theorem moveFile_emits (now : Instant) (id : Uuid) (sources : List FileStatus)
    (target : FileStatus) (message : Option String) :
    Work.Emits table (moveFile now id sources target message) := by
  intro _
  refine .bind_lift fun _ => ?_
  refine Work.emits_tables_bind (fun t => ?_) _
  split
  · exact .bind_setTables (Tables.outbox_congr rfl rfl table) (Work.emits_pure _)
  · exact Work.emits_pure _ t

theorem transitionFile_emits (settings : UploadSettings) (now : Instant) (id : Uuid)
    (sources : List FileStatus) (target : FileStatus) (message eventType : Option String) :
    Work.Emits table (settings.transitionFile now id sources target message eventType) := by
  refine Work.Emits.bind ?_ fun moved => ?_
  · refine (moveFile_emits now id sources target message).bind fun moved => ?_
    split
    · exact Work.emits_pure _
    · split
      · exact (settings.outbox.emit_emits _ _ _).bind fun _ => Work.emits_pure _
      · exact Work.emits_pure _
  · split
    · exact Work.emits_pure _
    · exact reportMiss_emits _ _ _ _

theorem insertSession_emits (now : Instant) (id token file : Uuid) (total : Int)
    (chunk : Option Int) (parts : Int) :
    Work.Emits table (insertSession now id token file total chunk parts) := by
  refine Work.emits_tables_bind fun t => ?_
  dsimp only
  split
  · exact .bind_throw _
  · split
    · exact .bind_throw _
    · exact .bind_setTables (Tables.outbox_congr rfl rfl table) (Work.emits_pure _)

theorem createSession_emits (now : Instant) (token file : Uuid) (total : Int)
    (chunk : Option Int) : Work.Emits table (createSession now token file total chunk) := by
  intro _
  refine .bind_lift fun parts => ?_
  exact .bind_freshId fun id => insertSession_emits now id token file total chunk parts _

theorem insertPart_emits (now : Instant) (session : Uuid) (part : NewUploadPart) :
    Work.Emits table (insertPart now session part) := by
  intro _
  refine .bind_freshId fun id => ?_
  refine .bind_lift fun _ => ?_
  refine Work.emits_tables_bind (fun t => ?_) _
  dsimp only
  split
  · exact .bind_throw _
  · exact .bind_setTables (Tables.outbox_congr rfl rfl table) (Work.emits_pure _)

theorem advanceSession_emits (now : Instant) (id : Uuid) (size : Int) :
    Work.Emits table (advanceSession now id size) := by
  refine Work.emits_tables_bind fun t => ?_
  split
  · dsimp only
    split
    · exact .bind_throw _
    · exact .bind_setTables (Tables.outbox_congr rfl rfl table) (Work.emits_pure _)
  · exact Work.emits_pure _ t

theorem partsOf_emits (session : Uuid) : Work.Emits table (partsOf session) := by
  refine Work.emits_tables_bind fun t => ?_
  split
  · exact Work.emits_pure _ t
  · exact Work.emits_throw _ t

theorem recordPart_emits (now : Instant) (session : Uuid) (part : NewUploadPart) :
    Work.Emits table (recordPart now session part) := by
  intro _
  refine .bind_lift fun _ => ?_
  refine (partsOf_emits session).bind (fun total => ?_) _
  refine fun _ => .bind_lift fun _ => ?_
  refine Work.Emits.bind ?_ (fun recorded => ?_) _
  · refine (insertPart_emits now session part).bind fun recorded => ?_
    exact (advanceSession_emits now session _).bind fun _ => Work.emits_pure _
  · split
    · exact Work.emits_pure _
    · exact reportMiss_emits _ _ _ _

theorem completeSession_emits (settings : UploadSettings) (now : Instant) (id : Uuid) :
    Work.Emits table (settings.completeSession now id) := by
  refine Work.emits_tables_bind fun t => ?_
  split
  · exact Work.emits_throw _ t
  · dsimp only
    split
    · exact .bind_throw _
    · split
      · exact .bind_throw _
      · refine .bind_setTables (Tables.outbox_congr rfl rfl table) ?_
        refine (moveFile_emits _ _ _ _ _).bind fun moved => ?_
        split
        · exact (settings.outbox.emit_emits _ _ _).bind fun _ => Work.emits_pure _
        · exact Work.emits_pure _

theorem concludeSession_emits (now : Instant) (id : Uuid) (target : SessionStatus) :
    Work.Emits table (concludeSession now id target) := by
  refine Work.emits_tables_bind fun t => ?_
  split
  · exact .bind_setTables (Tables.outbox_congr rfl rfl table) (Work.emits_pure _)
  · exact Work.emits_pure _ t

theorem terminateSession_emits (now : Instant) (id : Uuid) (target : SessionStatus) :
    Work.Emits table (terminateSession now id target) := by
  refine (concludeSession_emits now id target).bind fun concluded => ?_
  split
  · exact Work.emits_pure _
  · exact reportMiss_emits _ _ _ _

theorem cleanupExpiredFiles_emits (cutoff : Instant) (limit : Int) :
    Work.Emits table (cleanupExpiredFiles cutoff limit) := by
  intro _
  change Work.EmitsFrom _ _ (ite _ _ _)
  split
  · exact .bind_throw _
  · refine Work.emits_tables_bind (fun t => ?_) _
    dsimp only
    split
    · exact Work.emits_pure _ t
    · split
      · exact .bind_throw _
      · exact .bind_setTables (Tables.outbox_congr rfl rfl table) (Work.emits_pure _)

end UploadSettings

theorem Work.onEndpoints_emits {α : Type} {table : OutboxTable}
    (operation : EndpointRows → Except Error (α × EndpointRows)) :
    Work.Emits table (Work.onEndpoints operation) := by
  refine Work.emits_tables_bind fun t => ?_
  split
  · exact Work.emits_throw _ t
  · exact .bind_setTables (Tables.outbox_congr rfl rfl table) (Work.emits_pure _)

theorem registerEndpoint_emits {table : OutboxTable} (now : Instant) (request : NewEndpoint) :
    Work.Emits table (registerEndpoint now request) :=
  fun _ => .bind_freshId fun _ => Work.onEndpoints_emits _ _

end OutboxRelay
