import OutboxRelay.Proofs.EmissionSettings
import OutboxRelay.Proofs.FileAdmission

namespace OutboxRelay

/-- A builder of a handle, with what it names. -/
inductive Builder
  | withTrigger (trigger : Trigger)
  | withOutboxTable (table : OutboxTable)

namespace Builder

def trigger? : Builder → Option Trigger
  | .withTrigger trigger => some trigger
  | .withOutboxTable _ => none

def table? : Builder → Option OutboxTable
  | .withTrigger _ => none
  | .withOutboxTable table => some table

def lastTrigger? (builders : List Builder) : Option Trigger := (builders.filterMap trigger?).getLast?

def lastTable? (builders : List Builder) : Option OutboxTable := (builders.filterMap table?).getLast?

variable {builders others : List Builder}

theorem lastTrigger?_append (first rest : List Builder) :
    lastTrigger? (first ++ rest) = (lastTrigger? rest).or (lastTrigger? first) := by
  rw [lastTrigger?, List.filterMap_append, List.getLast?_append]
  rfl

theorem lastTable?_append (first rest : List Builder) :
    lastTable? (first ++ rest) = (lastTable? rest).or (lastTable? first) := by
  rw [lastTable?, List.filterMap_append, List.getLast?_append]
  rfl

/-- Every builder names something. -/
theorem eq_nil_iff : builders = [] ↔ lastTrigger? builders = none ∧ lastTable? builders = none := by
  constructor
  · rintro rfl
    exact ⟨rfl, rfl⟩
  · rintro ⟨noTrigger, noTable⟩
    cases builders with
    | nil => rfl
    | cons builder rest =>
      cases builder with
      | withTrigger trigger => simp [lastTrigger?, trigger?] at noTrigger
      | withOutboxTable table => simp [lastTable?, table?] at noTable

end Builder

/-- The settings with the last trigger and the last table that are named. -/
def OutboxSettings.named (settings : OutboxSettings) (builders : List Builder) : OutboxSettings :=
  { settings with
    trigger := (Builder.lastTrigger? builders).getD settings.trigger
    table := (Builder.lastTable? builders).getD settings.table }

theorem OutboxSettings.named_append (settings : OutboxSettings) (first rest : List Builder) :
    settings.named (first ++ rest) = (settings.named first).named rest := by
  simp only [named, Builder.lastTrigger?_append, Builder.lastTable?_append, Option.getD_or]

namespace Database
variable {db : Database} {builders others : List Builder}

def build (db : Database) : Builder → Database
  | .withTrigger trigger => db.withTrigger trigger
  | .withOutboxTable table => db.withOutboxTable table

/-- The handle after a list of builders. -/
def builds (db : Database) (builders : List Builder) : Database := builders.foldl build db

theorem build_eq (db : Database) (builder : Builder) :
    db.build builder = assemble (db.outbox.named [builder]) := by
  cases builder <;> rfl

/-- Whatever the handle was, once a builder has been applied its outbox settings are all that is left of
it. -/
theorem builds_eq (some : builders ≠ []) : db.builds builders = assemble (db.outbox.named builders) := by
  induction builders generalizing db with
  | nil => exact absurd rfl some
  | cons builder rest ih =>
    change (db.build builder).builds rest = _
    cases rest with
    | nil => exact db.build_eq builder
    | cons next rest =>
      rw [ih (List.cons_ne_nil next rest), build_eq]
      exact congrArg assemble (db.outbox.named_append [builder] (next :: rest)).symm

/-- The order of builders of different kinds makes no difference. -/
theorem builds_congr (triggers : Builder.lastTrigger? others = Builder.lastTrigger? builders)
    (tables : Builder.lastTable? others = Builder.lastTable? builders) :
    db.builds others = db.builds builders := by
  have empty : others = [] ↔ builders = [] := by
    rw [Builder.eq_nil_iff, Builder.eq_nil_iff, triggers, tables]
  by_cases none : builders = []
  · rw [none, empty.mpr none]
  · rw [builds_eq none, builds_eq (none ∘ empty.mp), OutboxSettings.named, triggers, tables]
    rfl

theorem perform_builds (some : builders ≠ []) (s : Store) (now : Instant) (call : Call) :
    ∃ new, s.EmitsBy ⟨db.builds builders, now, call⟩ (db.outbox.named builders) new := by
  rw [builds_eq some]
  exact s.perform_emitsBy rfl

end Database

namespace UploadPolicy
variable {policy : UploadPolicy}

/-- Two policies judge every file alike, and refuse it for the same reason. -/
def Agrees (policy other : UploadPolicy) : Prop :=
  ∀ filename size, policy.rejection? filename size = other.rejection? filename size

/-- No other size is allowed than by default, and every type that a file can have. -/
structure LikeDefault (policy : UploadPolicy) : Prop where
  size : policy.maxSizeBytes = ({} : UploadPolicy).maxSizeBytes
  types : ∀ types, policy.allowedTypes = some types → ∀ filename, ¬Blocked filename →
    guessContentType filename ∈ types

theorem rejection?_of_large {filename : String} {size : Int} (nonneg : 0 ≤ size)
    (large : policy.maxSizeBytes < size) :
    policy.rejection? filename size = some (.tooLarge size policy.maxSizeBytes) := by
  rw [rejection?, if_neg (Int.not_lt.mpr nonneg), if_pos large]

theorem agrees_default_iff : ({} : UploadPolicy).Agrees policy ↔ policy.LikeDefault := by
  constructor
  · intro agrees
    have positive : (0 : Int) < ({} : UploadPolicy).maxSizeBytes := by decide
    refine ⟨?_, fun types isTypes filename free => ?_⟩
    · -- a file that is too large for both is refused with the size that is allowed
      have same := agrees "" (max policy.maxSizeBytes ({} : UploadPolicy).maxSizeBytes + 1)
      rw [rejection?_of_large (by omega) (by omega), rejection?_of_large (by omega) (by omega)] at same
      injection same with same
      injection same with _ same
      exact same.symm
    · have admits : ({} : UploadPolicy).Admits { filename, sizeBytes := 0 } :=
        ⟨Int.le_refl 0, Int.le_of_lt positive, free, nofun⟩
      have admitted : policy.Admits { filename, sizeBytes := 0 } :=
        rejection?_eq_none_iff.mp ((agrees filename 0).symm.trans (rejection?_eq_none_iff.mpr admits))
      exact admitted.allowed types isTypes
  · intro like filename size
    unfold rejection?
    rw [like.size]
    split_ifs
    · rfl
    · rfl
    · cases blocked : blockedExtension? filename with
      | some ext => rfl
      | none =>
        cases isTypes : policy.allowedTypes with
        | none => rfl
        | some types =>
          have allowed := like.types types isTypes filename (blockedExtension?_eq_none_iff.mp blocked)
          exact (if_pos (List.contains_iff_mem.mpr allowed)).symm

end UploadPolicy

namespace Database

/-- The handle with nothing changed but what is named. -/
def renamed (db : Database) (builders : List Builder) : Database :=
  { outbox := db.outbox.named builders
    uploads := { db.uploads with outbox := db.outbox.named builders } }

/-- The policy has a part in registering files and in nothing else. -/
theorem run_congr_policy {m : Type → Type} [Monad m] [MonadLiftT (Except Error) m] [MonadStore m]
    {outbox : OutboxSettings} {policy other : UploadPolicy} (now : Instant)
    {call : Call} (agrees : ∀ request, call = .createFile request →
      policy.rejection? request.filename request.sizeBytes =
        other.rejection? request.filename request.sizeBytes) :
    (call.run ⟨outbox, ⟨outbox, policy⟩⟩ now : m Reply) =
      call.run ⟨outbox, ⟨outbox, other⟩⟩ now := by
  cases call with
  | createFile request =>
    have same : ∀ id, UploadSettings.newFile ⟨outbox, policy⟩ id request now =
        UploadSettings.newFile ⟨outbox, other⟩ id request now := by
      intro id
      rw [UploadSettings.newFile, UploadSettings.newFile, agrees request rfl]
    simp only [Call.run, UploadSettings.createFile, same]
  | _ => rfl

/-- What builders make of a handle. All that it emits, directly or for uploads, goes through its outbox
settings with the last trigger and the last table named, and only these two count. Every call does what
it would do with nothing else changed, except to register a file that is judged otherwise than before.
There is such a file if a builder was applied and the policy was not like the default one. -/
theorem builders_frame (db : Database) (builders : List Builder) :
    (builders ≠ [] → ∀ (s : Store) now call,
      (∃ new, s.EmitsBy ⟨db.builds builders, now, call⟩ (db.outbox.named builders) new) ∧
      ((∀ request, call = .createFile request →
          (db.builds builders).uploads.policy.rejection? request.filename request.sizeBytes =
            db.uploads.policy.rejection? request.filename request.sizeBytes) →
        s.perform ⟨db.builds builders, now, call⟩ = s.perform ⟨db.renamed builders, now, call⟩)) ∧
    (∀ others, Builder.lastTrigger? others = Builder.lastTrigger? builders →
      Builder.lastTable? others = Builder.lastTable? builders →
      db.builds others = db.builds builders) ∧
    ((db.builds builders).uploads.policy.Agrees db.uploads.policy ↔
      builders = [] ∨ db.uploads.policy.LikeDefault) := by
  refine ⟨fun some s now call => ⟨perform_builds some s now call, fun agrees => ?_⟩,
    fun others => builds_congr, ?_⟩
  · rw [builds_eq some] at agrees ⊢
    exact congrArg (fun performed : Access Reply => performed.run s) (run_congr_policy now agrees)
  · by_cases none : builders = []
    · subst none
      exact iff_of_true (fun _ _ => rfl) (.inl rfl)
    · rw [builds_eq none, or_iff_right none]
      exact UploadPolicy.agrees_default_iff

/-- Ten bytes are allowed, then the outbox is set, and eleven are taken. -/
theorem builders_frame_forgotten :
    let db : Database := { uploads := { policy := { maxSizeBytes := 10 } } }
    let builders : List Builder := [.withOutboxTable .portal]
    let stored : Database → List (FileStatus × String) := fun db =>
      let x : Transaction :=
        ⟨db, ⟨1772366400, 0⟩, .createFile { filename := "a.txt", sizeBytes := 11 }⟩
      ((({} : Store).perform x).2.tables.files).map fun file => (file.status, file.errorMessage)
    ¬(db.builds builders).uploads.policy.Agrees db.uploads.policy ∧
      stored db = [(.failed, "File size 11 bytes exceeds maximum of 10 bytes.")] ∧
      stored (db.builds builders) = [(.uploading, "")] := by
  intro db builders stored
  refine ⟨fun agrees => ?_, by decide +kernel, by decide +kernel⟩
  rcases (db.builders_frame builders).2.2.mp agrees with none | like
  · exact absurd none (List.cons_ne_nil _ _)
  · exact absurd like.size (by decide)

end Database

end OutboxRelay
