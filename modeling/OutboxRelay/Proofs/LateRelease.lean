import OutboxRelay.Proofs.StaleSettlement

namespace OutboxRelay

theorem eq_of_distinct {α : Type} {key : α → Uuid} {xs : List α} {x y : α}
    (distinct : xs.Pairwise fun a b => key a ≠ key b) (inX : x ∈ xs) (inY : y ∈ xs)
    (same : key x = key y) : x = y := by
  have first := find?_of_distinct distinct inX
  rw [same, find?_of_distinct distinct inY] at first
  exact (Option.some.inj first).symm

/-- Two lists with different keys each count the same if what they count has the same keys. -/
theorem countP_eq_of_keys {α β : Type} (key : α → Uuid) (key' : β → Uuid) {xs : List α}
    {ys : List β} {p : α → Bool} {q : β → Bool} (distinct : xs.Pairwise fun a b => key a ≠ key b)
    (distinct' : ys.Pairwise fun a b => key' a ≠ key' b)
    (same : ∀ id, (∃ x ∈ xs, p x = true ∧ key x = id) ↔ ∃ y ∈ ys, q y = true ∧ key' y = id) :
    xs.countP p = ys.countP q := by
  have keys : ((xs.filter p).map key).Perm ((ys.filter q).map key') := by
    refine (List.perm_ext_iff_of_nodup ?_ ?_).mpr fun id => ?_
    · exact List.pairwise_map.mpr (distinct.sublist List.filter_sublist)
    · exact List.pairwise_map.mpr (distinct'.sublist List.filter_sublist)
    · simpa only [List.mem_map, List.mem_filter, and_assoc] using same id
  have lengths := keys.length_eq
  rwa [List.length_map, List.length_map, ← List.countP_eq_length_filter,
    ← List.countP_eq_length_filter] at lengths

theorem OutboxEntry.scheduled_of_isDue {e : OutboxEntry} {now : Instant}
    (due : e.isDue now = true) : ∃ next, e.nextAttemptAt = some next := by
  unfold OutboxEntry.isDue at due
  cases scheduled : e.nextAttemptAt with
  | none =>
    rw [scheduled, Option.any_none, Bool.and_false] at due
    cases due
  | some next => exact ⟨next, rfl⟩

namespace OutboxRows

/-- When an entry is due next, if it is there and pending. -/
def scheduleOf (rows : OutboxRows) (id : Uuid) : Option Instant :=
  (rows.get? id).bind (·.nextAttemptAt)

variable {rows rows' : OutboxRows} {clock : Instant} {entries : List OutboxEntry}
  {copy row : OutboxEntry} {count : Nat} {id : Uuid}

theorem get?_of_mem (distinct : rows.Pairwise fun a b => a.id ≠ b.id) (member : row ∈ rows)
    (same : row.id = id) : rows.get? id = some row := by
  subst same
  exact find?_of_distinct distinct member

theorem scheduleOf_of_mem (distinct : rows.Pairwise fun a b => a.id ≠ b.id) (member : row ∈ rows)
    (same : row.id = id) : rows.scheduleOf id = row.nextAttemptAt := by
  rw [scheduleOf, get?_of_mem distinct member same, Option.bind_some]

/-- Giving entries back leaves the rows of all others as they are. -/
theorem mem_release (released : rows.release entries clock = .ok (count, rows'))
    (member : row ∈ rows) (missed : ∀ entry ∈ entries,
      ¬ isUntouched entry.id entry.attempts row = true) : row ∈ rows' :=
  release_preserves (P := fun rows => row ∈ rows) released
    (fun entry taken _ _ _ before amended => mem_of_amend amended before (missed entry taken)) member

/-- An entry that is as its copy says gets the schedule of the copy. -/
theorem restore_mem (released : rows.release entries clock = .ok (count, rows'))
    (distinct : entries.Pairwise fun a b => a.id ≠ b.id) (given : copy ∈ entries)
    (member : row ∈ rows) (untouched : isUntouched copy.id copy.attempts row = true) :
    restore copy clock row ∈ rows' := by
  have isRow := (isUntouched_iff.mp untouched).1
  induction entries generalizing rows count with
  | nil => cases given
  | cons entry rest ih =>
    obtain ⟨between, n, more, first, others, _⟩ := release_cons_eq_ok_iff.mp released
    obtain ⟨different, distinct'⟩ := List.pairwise_cons.mp distinct
    rcases List.mem_cons.mp given with rfl | later
    · refine mem_release others ?_ fun other inRest reached => ?_
      · obtain ⟨_, rfl, _⟩ := amend_eq_ok_iff.mp first
        exact List.mem_map.mpr ⟨row, member, if_pos untouched⟩
      · exact different other inRest (isRow.symm.trans (isUntouched_iff.mp reached).1)
    · refine ih others distinct' later (mem_of_amend first member fun reached => ?_)
      exact different copy later ((isUntouched_iff.mp reached).1.symm.trans isRow)

/-- A write that keeps identifiers neither adds nor deletes rows. -/
theorem amend_ids {selects : OutboxEntry → Bool} {change : OutboxEntry → OutboxEntry}
    (amended : rows.amend selects change = .ok (rows', count))
    (keeps : ∀ row, (change row).id = row.id) : rows'.map (·.id) = rows.map (·.id) := by
  obtain ⟨_, rfl, _⟩ := amend_eq_ok_iff.mp amended
  rw [List.map_map]
  refine List.map_congr_left fun row _ => ?_
  simp only [Function.comp_apply]
  split
  · exact keeps row
  · rfl

/-- Giving entries back neither adds nor deletes rows. -/
theorem release_ids (released : rows.release entries clock = .ok (count, rows')) :
    rows'.map (·.id) = rows.map (·.id) :=
  release_preserves (P := fun between => between.map (·.id) = rows.map (·.id)) released
    (fun _ _ _ _ _ kept amended => (amend_ids amended fun _ => rfl).trans kept) rfl

theorem scheduleOf_eq_none (missing : ∀ row ∈ rows, row.id ≠ id) : rows.scheduleOf id = none := by
  have none : rows.get? id = none := by
    simpa only [get?, List.find?_eq_none, decide_eq_true_eq] using missing
  rw [scheduleOf, none, Option.bind_none]

/-- A release leaves the schedule of an entry alone if the entry is not as the copy says, or if the
copy has the same schedule. -/
theorem Consistent.scheduleOf_release (consistent : rows.Consistent)
    (released : rows.release entries clock = .ok (count, rows'))
    (distinct : entries.Pairwise fun a b => a.id ≠ b.id) (given : copy ∈ entries)
    (stored : copy.nextAttemptAt.map Instant.stored = copy.nextAttemptAt) :
    rows'.scheduleOf copy.id =
      if ∃ row ∈ rows, isUntouched copy.id copy.attempts row = true then copy.nextAttemptAt
      else rows.scheduleOf copy.id := by
  have consistent' := consistent.release released
  split
  · rename_i reached
    obtain ⟨row, member, untouched⟩ := reached
    have restored := restore_mem released distinct given member untouched
    rw [scheduleOf_of_mem consistent'.ids restored (isUntouched_iff.mp untouched).1]
    exact stored
  · rename_i missed
    by_cases present : ∃ row ∈ rows, row.id = copy.id
    · obtain ⟨row, member, same⟩ := present
      have kept := mem_release released member fun entry taken reached => by
        have isCopy := (isUntouched_iff.mp reached).1.symm.trans same
        exact missed ⟨row, member, eq_of_distinct distinct taken given isCopy ▸ reached⟩
      rw [scheduleOf_of_mem consistent.ids member same, scheduleOf_of_mem consistent'.ids kept same]
    · have absent : ∀ row ∈ rows, row.id ≠ copy.id := fun row member same =>
        present ⟨row, member, same⟩
      have absent' : ∀ row ∈ rows', row.id ≠ copy.id := by
        intro row member same
        have among := List.mem_map_of_mem (f := fun row : OutboxEntry => row.id) member
        rw [release_ids released] at among
        obtain ⟨old, inRows, isOld⟩ := List.mem_map.mp among
        exact absent old inRows (isOld.trans same)
      rw [scheduleOf_eq_none absent, scheduleOf_eq_none absent']

/-- A row that is hidden is not due before it reopens. -/
theorem Hidden.reopens_le {reopens next : Instant} (hidden : rows.Hidden id reopens)
    (consistent : rows.Consistent) (scheduled : rows.scheduleOf id = some next) :
    reopens.le next = true := by
  obtain ⟨row, member, same, _, next', scheduled', bound⟩ := hidden
  rw [scheduleOf_of_mem consistent.ids member same, scheduled'] at scheduled
  cases scheduled
  exact bound

/-- No fetch by an earlier clock returns a row whose schedule is still that of a hidden row. -/
theorem Hidden.not_returned {rows'' : OutboxRows} {reopens time : Instant} {limit : Int}
    {lease : Period} (hidden : rows.Hidden id reopens) (consistent : rows.Consistent)
    (consistent' : rows'.Consistent) (kept : rows'.scheduleOf id = rows.scheduleOf id)
    (fetched : rows'.fetchDue time limit lease clock = .ok (entries, rows''))
    (member : row ∈ entries) (same : row.id = id) : ¬ time.stored.lt reopens = true := by
  obtain ⟨inRows, due⟩ := due_of_fetched fetched member
  obtain ⟨next, scheduled⟩ := OutboxEntry.scheduled_of_isDue due
  rw [scheduleOf_of_mem consistent'.ids inRows same, scheduled] at kept
  have late := hidden.reopens_le consistent kept.symm
  intro early
  exact Instant.lt_iff.mp early (Instant.le_trans late (next_le_of_isDue due scheduled))

/-- What is given back is due from its old schedule on. -/
theorem isDue_restore {now next : Instant} (pending : row.status = .pending)
    (scheduled : copy.nextAttemptAt = some next) (bound : next.stored.le now = true) :
    (restore copy clock row).isDue now = true := by
  rw [OutboxEntry.isDue, restore, scheduled]
  simp only [pending, decide_true, Bool.true_and, Option.map_some, Option.any_some]
  exact bound

/-- A fetch that may return everything returns all that is due. -/
theorem Readable.fetchDue_of_due {time claimEnd : Instant} {lease : Period}
    (readable : rows.Readable) (ends : time.add? lease = some claimEnd)
    (known : time.isKnownAt clock = true) (lasting : claimEnd.isKnownAt clock = true)
    (member : row ∈ rows) (due : row.isDue time.stored = true) :
    ∃ entries rows', rows.fetchDue time rows.length lease clock = .ok (entries, rows') ∧
      row ∈ entries := by
  refine ⟨_, _, fetchDue_eq_ok_iff.mpr ⟨claimEnd, ends,
    readable.fetchable (Int.natCast_nonneg _) known lasting, rfl, rfl⟩, ?_⟩
  have few : (rows.due time).length ≤ rows.length := by
    rw [OutboxRows.due, List.length_mergeSort]
    exact List.length_filter_le _ _
  rw [Int.toNat_natCast, List.take_of_length_le few]
  exact mem_due.mpr ⟨member, due⟩

end OutboxRows

/-- A fetch that goes through shows its entries. -/
theorem Store.fetched_eq {s : Store} {db : Database} {now time : Instant} {limit : Int}
    {lease : Period} {entries : List OutboxEntry} {rows' : OutboxRows}
    (fetched : (s.rows db.outbox.table).fetchDue time limit lease now = .ok (entries, rows')) :
    let x : Transaction := ⟨db, now, .fetchDue time limit lease⟩
    x.fetched db.outbox.table (s.perform x).1 = entries := by
  intro x
  rcases s.perform_write_cases (s.perform_fetchDue db now time limit lease) db.outbox.table with
    ⟨_, failed⟩ | ⟨entries', _, _, done, _, reply⟩
  · obtain ⟨e, refused, _⟩ := failed rfl
    rw [fetched] at refused
    cases refused
  · rw [fetched] at done
    cases done
    rw [reply]
    exact if_pos rfl

/-- A fetch that may return everything shows all that is due. -/
theorem Store.fetched_of_due {s : Store} {db : Database} {now time claimEnd : Instant}
    {lease : Period} {row : OutboxEntry} (readable : (s.rows db.outbox.table).Readable)
    (ends : time.add? lease = some claimEnd) (known : time.isKnownAt now = true)
    (lasting : claimEnd.isKnownAt now = true) (member : row ∈ s.rows db.outbox.table)
    (due : row.isDue time.stored = true) :
    let x : Transaction := ⟨db, now, .fetchDue time (s.rows db.outbox.table).length lease⟩
    row ∈ x.fetched db.outbox.table (s.perform x).1 := by
  intro x
  obtain ⟨entries, _, claims, returned⟩ := readable.fetchDue_of_due ends known lasting member due
  rw [Store.fetched_eq claims]
  exact returned

/-- A release that goes through. -/
theorem Store.rows_of_release {s : Store} {x : Transaction} {table : OutboxTable}
    {entries : List OutboxEntry} {count : Nat} {rows' : OutboxRows}
    (target : x.db.outbox.table = table) (isRelease : x.call = .release entries)
    (released : (s.rows table).release entries x.now = .ok (count, rows')) :
    (s.perform x).2.rows table = rows' := by
  obtain ⟨db, now, call⟩ := x
  obtain rfl : call = _ := isRelease
  rcases s.perform_write_cases (s.perform_release db now entries) table with
    ⟨_, failed⟩ | ⟨count', _, _, done, left, _⟩
  · obtain ⟨e, refused, _⟩ := failed target
    rw [released] at refused
    cases refused
  · rw [released] at done
    cases done
    exact left

/-- A run of calls leaves a claim on an entry alone: none of them releases the entry or settles an
attempt at it, and none claims it for less. -/
def Store.KeepsClaim (s : Store) (table : OutboxTable) (id : Uuid) (reopens : Instant)
    (run : List Transaction) : Prop :=
  ∀ before x rest, run = before ++ x :: rest → x.db.outbox.table = table →
    ¬(((s.after before).rows table).Lands id x ∨
      ((s.after before).rows table).CutShort id reopens x)

namespace Relay
variable {table : OutboxTable} {r r₁ r₂ : Relay} {first second giving : Transaction}
  {before between : List Transaction} {copy again : OutboxEntry} {entries : List OutboxEntry}
  {time time' claimEnd : Instant} {limit limit' : Int} {lease lease' : Period}

/-- A claim that a run leaves alone still hides its entries. -/
theorem Leads.hidden_of_keeps (reach : Reachable table r₁)
    (isFetch : second.call = .fetchDue time' limit' lease')
    (fetched : again ∈ second.fetched table (r₁.store.perform second).1)
    (ends : time'.add? lease' = some claimEnd)
    (leads : Leads table (r₁.perform table second) between r₂)
    (keeps : (r₁.perform table second).store.KeepsClaim table again.id claimEnd.stored between) :
    (r₂.store.rows table).Hidden again.id claimEnd.stored := by
  obtain ⟨_, _, _, _, isSecond, claims⟩ :=
    (r₁.store.perform_step second table).fetched_of_mem fetched
  cases isFetch.symm.trans isSecond
  have begun := reach.perform (permitted_of_fetched fetched)
  have hidden := OutboxRows.hidden_of_fetched claims ends fetched
  rcases Store.after_hidden _ between begun.consistent hidden with
    stands | ⟨earlier, x, rest, parts, target, reached⟩
  · rw [leads.store_eq]
    exact stands
  · exact absurd reached (keeps earlier x rest parts target)

/-- What a late release does to the schedule of an entry. -/
theorem scheduleOf_release_iff (reach : Reachable table r)
    (fetched : copy ∈ first.fetched table (r.store.perform first).1)
    (leads : Leads table (r.perform table first) before r₁) (room : r₁.store.serial ≤ 2 ^ 128)
    (target : giving.db.outbox.table = table) (isRelease : giving.call = .release entries)
    (back : entries.Sublist (first.fetched table (r.store.perform first).1))
    (given : copy ∈ entries) :
    let begun := (r.perform table first).store
    let rows := r₁.store.rows table
    ∃ count rows', rows.release entries giving.now = .ok (count, rows') ∧
      (r₁.store.perform giving).2.rows table = rows' ∧ rows'.Consistent ∧
      ((∃ row ∈ rows, OutboxRows.isUntouched copy.id copy.attempts row = true) ↔
        begun.Undisturbed table copy.id before ∨ begun.ComesRound table copy before) ∧
      (rows'.scheduleOf copy.id = rows.scheduleOf copy.id ↔
        ¬(begun.Undisturbed table copy.id before ∨ begun.ComesRound table copy before) ∨
          rows.scheduleOf copy.id = copy.nextAttemptAt) := by
  intro begun rows
  have reach₁ : Reachable table (r.perform table first) := .perform reach (permitted_of_fetched fetched)
  have reach₂ := leads.reachable reach₁
  have consistent : rows.Consistent := reach₂.consistent
  have tracked : rows.Tracked r₁.store.serial r₁.copies := reach₂.tracked room
  obtain ⟨_, _, _, _, _, claims⟩ := (r.store.perform_step first table).fetched_of_mem fetched
  have distinct := (reach.consistent.fetched_distinct claims).sublist back
  have stored := reach.consistent.stored copy (OutboxRows.due_of_fetched claims fetched).1
  obtain ⟨count, rows', released⟩ := tracked.release_ok consistent (fun entry taken =>
    leads.copies_subset (List.mem_append_right _ (back.subset taken))) giving.now
  have history := leads.untouched_iff reach₁ room (reach.untouched_of_fetched fetched)
  refine ⟨count, rows', released, Store.rows_of_release target isRelease released,
    consistent.release released, history, ?_⟩
  rw [consistent.scheduleOf_release released distinct given stored, ← history]
  split
  · rename_i reached
    exact ⟨fun kept => .inr kept.symm, fun kept => (kept.resolve_left (absurd reached)).symm⟩
  · rename_i missed
    exact iff_of_true rfl (.inl missed)

/-- When a late release keeps off the claim of another sweep. If a sweep gives an entry back that a
second sweep has fetched since, the schedule stays as it is exactly if an attempt at the entry was
settled since the first fetch, and the entry did not come round, or if the schedule is what it was
before the first fetch. It is not as long as the second claim stands; then leaving it alone means
that no fetch gets the entry before the second claim ends. -/
theorem release_keeps_claim_iff (reach : Reachable table r)
    (isFetch : first.call = .fetchDue time limit lease)
    (fetched : copy ∈ first.fetched table (r.store.perform first).1)
    (leads : Leads table (r.perform table first) before r₁)
    (isFetch' : second.call = .fetchDue time' limit' lease')
    (fetched' : again ∈ second.fetched table (r₁.store.perform second).1)
    (same : again.id = copy.id) (ends : time'.add? lease' = some claimEnd)
    (leads' : Leads table (r₁.perform table second) between r₂)
    (room : r₂.store.serial ≤ 2 ^ 128) (ordered : time.stored.le time'.stored = true)
    (lasting : time'.stored.lt claimEnd.stored = true)
    (target : giving.db.outbox.table = table) (isRelease : giving.call = .release entries)
    (back : entries.Sublist (first.fetched table (r.store.perform first).1))
    (given : copy ∈ entries) :
    let begun := (r.perform table first).store
    let run := before ++ second :: between
    let rows := r₂.store.rows table
    let after := (r₂.store.perform giving).2
    ((after.rows table).scheduleOf copy.id = rows.scheduleOf copy.id ↔
      ¬(begun.Undisturbed table copy.id run ∨ begun.ComesRound table copy run) ∨
        rows.scheduleOf copy.id = copy.nextAttemptAt) ∧
    ((r₁.perform table second).store.KeepsClaim table copy.id claimEnd.stored between →
      rows.Hidden copy.id claimEnd.stored) ∧
    (rows.Hidden copy.id claimEnd.stored →
      rows.scheduleOf copy.id ≠ copy.nextAttemptAt ∧
      ((after.rows table).scheduleOf copy.id = rows.scheduleOf copy.id ↔
        ∀ (third : Transaction) (time'' : Instant) (limit'' : Int) (lease'' : Period),
          third.call = .fetchDue time'' limit'' lease'' →
          time''.stored.lt claimEnd.stored = true →
          ∀ entry ∈ third.fetched table (after.perform third).1, entry.id ≠ copy.id)) := by
  intro begun run rows after
  have reach₁ : Reachable table (r.perform table first) := .perform reach (permitted_of_fetched fetched)
  have all : Leads table (r.perform table first) run r₂ :=
    leads.append (.call (permitted_of_fetched fetched') leads')
  have consistent : rows.Consistent := (all.reachable reach₁).consistent
  obtain ⟨_, rows', released, left, consistent', history, unchanged⟩ :=
    scheduleOf_release_iff reach fetched all room target isRelease back given
  obtain ⟨_, _, _, _, isFirst, claims⟩ := (r.store.perform_step first table).fetched_of_mem fetched
  cases isFetch.symm.trans isFirst
  have distinct := (reach.consistent.fetched_distinct claims).sublist back
  obtain ⟨_, wasDue⟩ := OutboxRows.due_of_fetched claims fetched
  obtain ⟨next, scheduled⟩ := OutboxEntry.scheduled_of_isDue wasDue
  have before_time := OutboxRows.next_le_of_isDue wasDue scheduled
  rw [left]
  refine ⟨unchanged, fun keeps => ?_, fun hidden => ?_⟩
  · exact same ▸ Leads.hidden_of_keeps (leads.reachable reach₁) isFetch' fetched' ends leads'
      (same ▸ keeps)
  have moved : rows.scheduleOf copy.id ≠ copy.nextAttemptAt := fun kept =>
    Instant.lt_iff.mp lasting (Instant.le_trans (hidden.reopens_le consistent (kept.trans scheduled))
      (Instant.le_trans before_time ordered))
  refine ⟨moved, fun kept => ?_, fun none => ?_⟩
  · intro third time'' _ _ isThird early entry returned isCopy
    obtain ⟨_, _, _, _, isThird', claims'⟩ :=
      (after.perform_step third table).fetched_of_mem returned
    cases isThird.symm.trans isThird'
    rw [left] at claims'
    exact hidden.not_returned consistent consistent' kept claims' returned isCopy early
  · -- what the release puts back was due when the second sweep fetched the entry
    rw [unchanged, ← history]
    refine .inl fun ⟨row, member, untouched⟩ => ?_
    obtain ⟨isCopy, pending, _⟩ := OutboxRows.isUntouched_iff.mp untouched
    have restored := OutboxRows.restore_mem released distinct given member untouched
    have stored := reach.consistent.stored copy (OutboxRows.due_of_fetched claims fetched).1
    have isStored : next.stored = next := by
      rw [scheduled] at stored
      exact Option.some.inj stored
    have due : (OutboxRows.restore copy giving.now row).isDue time'.stored = true := by
      refine OutboxRows.isDue_restore pending scheduled ?_
      rw [isStored]
      exact Instant.le_trans before_time ordered
    -- a third fetch like the second, by the same clock
    obtain ⟨_, _, _, rfl, isSecond, claims'⟩ :=
      (r₁.store.perform_step second table).fetched_of_mem fetched'
    cases isFetch'.symm.trans isSecond
    obtain ⟨_, ends', fetchable, isTaken, _⟩ := OutboxRows.fetchDue_eq_ok_iff.mp claims'
    cases ends.symm.trans ends'
    have taken := List.ne_nil_of_mem (isTaken ▸ fetched')
    rw [← left] at restored
    have readable := ((all.reachable reach₁).readable).step (r₂.store.perform_step giving _)
    exact none _ time' _ lease' rfl lasting _ (Store.fetched_of_due readable ends
      fetchable.known (fetchable.ends taken) restored due) isCopy

/-- The theorem about a sweep that gives an entry back a second after its claim of five minutes has
ended: another sweep has just fetched the entry. -/
theorem release_keeps_claim_iff_late :
    let time : Int → Instant := fun secs => ⟨1767225600 + secs, 0⟩
    let fetch : Int → Transaction := fun secs =>
      ⟨{}, time secs, .fetchDue (time secs) 20 (Period.ofSeconds 300)⟩
    let r := ({} : Relay).perform .core
      ⟨{}, time 0, .emit ⟨"file", "1", "file.stored", none, none⟩⟩
    let r₁ := r.perform .core (fetch 0)
    let r₂ := r₁.perform .core (fetch 301)
    ∃ copy again, copy.id = Uuid.ofSerial 0 ∧ again.id = copy.id ∧ Reachable .core r ∧
      (fetch 0).fetched .core (r.store.perform (fetch 0)).1 = [copy] ∧
      (fetch 301).fetched .core (r₁.store.perform (fetch 301)).1 = [again] ∧
      Leads .core r₁ [] r₁ ∧ Leads .core r₂ [] r₂ ∧ r₂.store.serial ≤ 2 ^ 128 ∧
      (time 301).add? (Period.ofSeconds 300) = some (time 601) ∧
      (time 0).stored.le (time 301).stored = true ∧
      (time 301).stored.lt (time 601).stored = true ∧
      (r₂.store.rows .core).Hidden copy.id (time 601).stored ∧
      ((r₂.store.perform ⟨{}, time 302, .release [copy]⟩).2.rows .core).scheduleOf copy.id ≠
        (r₂.store.rows .core).scheduleOf copy.id := by
  intro time fetch r r₁ r₂
  have reach : Reachable .core r := .perform .empty ⟨nofun, nofun⟩
  have first : ((fetch 0).fetched .core (r.store.perform (fetch 0)).1).map
      (fun e => (e.id, e.attempts)) = [(Uuid.ofSerial 0, 0)] := by decide +kernel
  have later : ((fetch 301).fetched .core (r₁.store.perform (fetch 301)).1).map (·.id) =
      [Uuid.ofSerial 0] := by decide +kernel
  obtain ⟨copy, fetched, isCopy⟩ := List.map_eq_singleton_iff.mp first
  obtain ⟨again, fetched', isAgain⟩ := List.map_eq_singleton_iff.mp later
  obtain ⟨isFirst, attempts⟩ := Prod.mk.injEq .. ▸ isCopy
  have same : again.id = copy.id := isAgain.trans isFirst.symm
  have room : r₂.store.serial ≤ 2 ^ 128 := by decide +kernel
  have ends : (time 301).add? (Period.ofSeconds 300) = some (time 601) := by decide
  have ordered : (time 0).stored.le (time 301).stored = true := by decide
  have lasting : (time 301).stored.lt (time 601).stored = true := by decide
  have one : [copy].Sublist ((fetch 0).fetched .core (r.store.perform (fetch 0)).1) := by
    rw [fetched]
  let giving : Transaction := ⟨{}, time 302, .release [copy]⟩
  have isRelease : giving.call = .release [copy] := rfl
  obtain ⟨unchanged, stands, moved⟩ := release_keeps_claim_iff reach rfl
    (fetched ▸ List.mem_singleton_self copy) .done rfl (fetched' ▸ List.mem_singleton_self again)
    same ends .done room ordered lasting rfl isRelease one (List.mem_singleton_self copy)
  have hidden := stands fun before x rest parts => absurd parts (by simp)
  refine ⟨copy, again, isFirst, same, reach, fetched, fetched', .done, .done, room, ends, ordered,
    lasting, hidden, fun kept => ?_⟩
  rcases unchanged.mp kept with disturbed | already
  · refine disturbed (.inl ?_)
    rw [isFirst]
    exact ⟨by decide +kernel, by decide +kernel⟩
  · exact (moved hidden).1 already

end Relay

end OutboxRelay
