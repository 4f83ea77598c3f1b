import Mathlib.Order.Bounds.Basic
import OutboxRelay.Proofs.ChunkPlan
import OutboxRelay.Proofs.WordArithmetic

namespace OutboxRelay

/-- The fewest chunks that carry everything. -/
def IsLeastParts (total size parts : Int) : Prop := IsLeast {n : Int | total ≤ n * size} parts

section Division
variable {total size parts : Int} (positive : 0 < size)
include positive

theorem carries_iff {n : Int} : total ≤ n * size ↔ ⌈(total : ℚ) / size⌉ ≤ n := by
  have positive' : (0 : ℚ) < size := by exact_mod_cast positive
  rw [Int.ceil_le, div_le_iff₀ positive']
  exact_mod_cast Iff.rfl

theorem isLeastParts_iff : IsLeastParts total size parts ↔ parts = ⌈(total : ℚ) / size⌉ := by
  have carrying : {n : Int | total ≤ n * size} = Set.Ici ⌈(total : ℚ) / size⌉ :=
    Set.ext fun n => carries_iff positive
  rw [IsLeastParts, carrying]
  exact ⟨fun least => least.unique isLeast_Ici, fun same => same ▸ isLeast_Ici⟩

end Division

section Count
variable {total parts : Int} {chunk : Option Int}

theorem totalParts_of_accepted (positive : 0 < chunk.getD defaultChunkSize) (nonneg : 0 ≤ total) :
    totalParts total chunk =
      let parts := ⌈(total : ℚ) / (chunk.getD defaultChunkSize : ℤ)⌉
      if parts ≤ maxInt32 then .ok parts
      else .error (.invalidInput ("upload needs too many parts: " ++ toString parts)) := by
  unfold totalParts
  dsimp only
  rw [if_neg (Int.not_le.mpr positive), if_neg (Int.not_lt.mpr nonneg), partCount_eq positive]

theorem totalParts_eq_ok_iff : totalParts total chunk = .ok parts ↔
    1 ≤ chunk.getD defaultChunkSize ∧ 0 ≤ total ∧
      IsLeastParts total (chunk.getD defaultChunkSize) parts ∧ parts ≤ maxInt32 := by
  constructor
  · intro planned
    obtain ⟨positive, nonneg, isCeil⟩ := totalParts_eq_ok planned
    exact ⟨positive, nonneg, (isLeastParts_iff positive).mpr isCeil, totalParts_le planned⟩
  · rintro ⟨positive, nonneg, least, fits⟩
    cases (isLeastParts_iff positive).mp least
    exact (totalParts_of_accepted positive nonneg).trans (if_pos fits)

/-- What is refused is bad input. -/
theorem totalParts_cases (total : Int) (chunk : Option Int) :
    (∃ parts, totalParts total chunk = .ok parts) ∨
      ∃ message, totalParts total chunk = .error (.invalidInput message) := by
  by_cases accepted : 0 < chunk.getD defaultChunkSize ∧ 0 ≤ total
  · rw [totalParts_of_accepted accepted.1 accepted.2]
    dsimp only
    split
    · exact .inl ⟨_, rfl⟩
    · exact .inr ⟨_, rfl⟩
  · unfold totalParts
    dsimp only
    split
    · exact .inr ⟨_, rfl⟩
    · rw [if_pos (by omega)]
      exact .inr ⟨_, rfl⟩

/-- The count in words: there is none if an operation overflows or divides by zero. -/
def partCount64? (total size : Int) : Option Int :=
  partCountBy quotient64? remainder64? word64? total size

theorem partCount64?_of_accepted {size : Int} (nonneg : 0 ≤ total) (word : total ≤ maxInt64)
    (positive : 0 < size) : partCount64? total size = some ⌈(total : ℚ) / size⌉ := by
  have low : 0 ≤ ⌈(total : ℚ) / size⌉ := by
    have bound : total ≤ ⌈(total : ℚ) / size⌉ * size := (carries_iff positive).mpr (Int.le_refl _)
    refine Int.not_lt.mp fun negative => ?_
    exact absurd (Int.mul_neg_of_neg_of_pos negative positive) (by omega)
  have high : ⌈(total : ℚ) / size⌉ ≤ total :=
    (carries_iff positive).mp (le_mul_of_one_le_right nonneg positive)
  have fits := fitsInt64_of_nonneg low (Int.le_trans high word)
  rw [partCount64?, partCountBy, quotient64?_of_pos nonneg word positive, Option.bind_eq_bind,
    Option.bind_some, remainder64?_of_pos nonneg word positive, Option.bind_some,
    quotient_add_rest positive,
    word64?_of_fits fits]

end Count

/-- A session of the file can be opened: its size has a number of parts, and it has no session yet. -/
structure Tables.AdmitsSession (t : Tables) (file : Uuid) (total : Int) (chunk : Option Int) : Prop where
  planned : ∃ parts, totalParts total chunk = .ok parts
  there : ∃ row, t.file? file = some row
  free : ∀ session ∈ t.sessions, session.fileId ≠ file

theorem UploadSettings.run_createSession {u : UnitOfWork} {file : Uuid} {total : Int}
    {chunk : Option Int} (opens : u.tables.AdmitsSession file total chunk) (now : Instant) (token : Uuid) :
    ∃ session v, (createSession now token file total chunk : Work UploadSession).run u =
      (.ok session, v) := by
  obtain ⟨⟨parts, planned⟩, ⟨row, there⟩, free⟩ := opens
  have unused : ¬(u.tables.sessions.any (·.fileId = file)) = true := by
    intro taken
    obtain ⟨session, member, same⟩ := List.any_eq_true.mp taken
    exact free session member (of_decide_eq_true same)
  rw [createSession, planned, Stateful.run_bind_ok (Stateful.run_lift _ _), Work.freshId_part,
    Work.run_freshId_bind, Work.statement_part, insertSession, Work.run_tables_bind]
  dsimp only
  rw [there, Option.isNone_some, if_neg Bool.false_ne_true, if_neg unused]
  exact ⟨_, _, rfl⟩

namespace Store
variable {s : Store} {total : Int} {chunk : Option Int} {file : Uuid}

theorem perform_createSession_stored (db : Database) (now : Instant) (token : Uuid)
    (opens : s.tables.AdmitsSession file total chunk) :
    ∃ session s', s.perform ⟨db, now, .createSession token file total chunk⟩ =
        (.ok (.session session), s') ∧
      s'.tables = { s.tables with sessions := s.tables.sessions ++ [session] } ∧
      session.fileId = file ∧ totalParts total chunk = .ok session.totalParts ∧ session.Opened := by
  obtain ⟨session, u, run⟩ := UploadSettings.run_createSession (u := s.begin) opens now token
  have opened := UploadSettings.createSession_opened run
  obtain ⟨planned, _, _, _, isFile, _, _, _, _, _, rfl⟩ := UploadSettings.createSession_eq_ok run
  have performed : s.perform ⟨db, now, .createSession token file total chunk⟩ =
      (.ok (.session session), _) :=
    (s.perform_eq _).trans (atomic_map_ok Reply.session run)
  exact ⟨session, _, performed, rfl, isFile, planned, opened⟩

theorem perform_createSession_refused (db : Database) (now : Instant) (token : Uuid)
    (closed : ¬s.tables.AdmitsSession file total chunk) :
    (∃ e, (s.perform ⟨db, now, .createSession token file total chunk⟩).1 = .error e) ∧
      (s.perform ⟨db, now, .createSession token file total chunk⟩).2.tables = s.tables := by
  rcases s.perform_cases ⟨db, now, .createSession token file total chunk⟩ with
    ⟨e, failed, kept, _⟩ | ⟨_, _, run, _, _⟩
  · exact ⟨⟨e, failed⟩, kept⟩
  · obtain ⟨session, created, _⟩ := Stateful.run_map_eq_ok run
    obtain ⟨planned, there, free, _⟩ := UploadSettings.createSession_eq_ok created
    exact absurd ⟨⟨_, planned⟩, Option.isSome_iff_exists.mp there, free⟩ closed

/-- What comes of a call to open a session: it is there if it can be, else nothing has changed. -/
structure OpensSession (s : Store) (x : Transaction) (file : Uuid) (total : Int)
    (chunk : Option Int) : Prop where
  stored_iff : (∃ session, (s.perform x).2.tables.sessions = s.tables.sessions ++ [session]) ↔
    s.tables.AdmitsSession file total chunk
  stored : s.tables.AdmitsSession file total chunk → ∃ session s',
    s.perform x = (.ok (.session session), s') ∧
      s'.tables = { s.tables with sessions := s.tables.sessions ++ [session] } ∧
      session.fileId = file ∧ totalParts total chunk = .ok session.totalParts ∧ session.Opened
  refused : ¬s.tables.AdmitsSession file total chunk →
    (∃ e, (s.perform x).1 = .error e) ∧ (s.perform x).2.tables = s.tables

theorem perform_createSession (s : Store) (db : Database) (now : Instant) (token file : Uuid)
    (total : Int) (chunk : Option Int) :
    s.OpensSession ⟨db, now, .createSession token file total chunk⟩ file total chunk where
  stored_iff := by
    constructor
    · rintro ⟨session, added⟩
      refine Classical.byContradiction fun closed => ?_
      rw [(perform_createSession_refused db now token closed).2, List.self_eq_append_right] at added
      exact List.cons_ne_nil _ _ added
    · intro opens
      obtain ⟨session, s', performed, tables, _⟩ :=
        perform_createSession_stored db now token opens
      exact ⟨session, by rw [performed, tables]⟩
  stored := perform_createSession_stored db now token
  refused := perform_createSession_refused db now token

end Store

/-- The number of parts is exact. There is one if the chunks are not empty, the size is not negative and
the fewest chunks that carry everything are a number of thirty-two bits, and it is these; anything else
is bad input. Counting in words gives the same. A session of a file is stored if there is a number of
parts, the file is there, and it has no session yet; else nothing changes. -/
theorem part_count_exact (total : Int) (chunk : Option Int) :
    (∀ parts, totalParts total chunk = .ok parts ↔
      1 ≤ chunk.getD defaultChunkSize ∧ 0 ≤ total ∧
        IsLeastParts total (chunk.getD defaultChunkSize) parts ∧ parts ≤ maxInt32) ∧
    ((∃ parts, totalParts total chunk = .ok parts) ∨
      ∃ message, totalParts total chunk = .error (.invalidInput message)) ∧
    (fitsInt64 total = true → 1 ≤ chunk.getD defaultChunkSize → 0 ≤ total →
      ∃ parts, partCount64? total (chunk.getD defaultChunkSize) = some parts ∧
        IsLeastParts total (chunk.getD defaultChunkSize) parts) ∧
    ∀ (s : Store) db now token file,
      s.OpensSession ⟨db, now, .createSession token file total chunk⟩ file total chunk := by
  refine ⟨fun parts => totalParts_eq_ok_iff, totalParts_cases total chunk,
    fun word positive nonneg => ?_, fun s db now token file =>
      s.perform_createSession db now token file total chunk⟩
  exact ⟨_, partCount64?_of_accepted nonneg (fitsInt64_iff.mp word).2 positive,
    (isLeastParts_iff positive).mpr rfl⟩

end OutboxRelay
