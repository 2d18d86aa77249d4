import TripPipeline.Rollup.Backfill

/-!
# The rollup of one hour, while rows still land

The DAG run of an hour looks at `trips_by_city_hour` twice: the sensor counts the rows of the
hour, city by city, and the extract reads them, city by city. The stream and the drain of late
events go on writing. The sensor is content with one row, and `verify_hour` compares Postgres with
what was extracted.

* `HourRun` is a table, the stage and the phase of the DAG run, `HourRun.next` what an action does
  to them: a write, or the next thing a task does. A task that raises is tried again.
* `Stage.Holds`: the stage holds a row of the table. It is keyed by the trip alone, so a trip of
  another hour may stand there; the row counts as held with the columns that every load sets.
* `Expected`: the row of a city is loaded, or its trip was read by the attempt under way, or the
  city is still to be read. `Agrees`: no other row says otherwise of the trip.
* `next_accounted`, `run_accounted`: as long as only such rows are written, every row of the table
  stays one.
* `run_complete`: then a DAG run that succeeded has loaded every row of its hour.
-/

namespace TripPipeline.Rollup

open TripPipeline.Common TripPipeline.Lib
open Datetime (hourUs)

/-! ## The tasks -/

/-- `MIN_ROWS_TO_PROCEED`. -/
def minRowsToProceed : ℕ := 1

/-- `retries`, of every task. -/
def taskRetries : ℕ := 3

/-- What `verify_hour` returns. -/
structure VerifyResult extends LoadResult where
  inPostgres : ℕ
  drift : ℤ

/-- The check of a loaded hour. `text` is `isoformat` of an hour.
Source: `airflow/dags/trips_batch_rollup.py` `verify_hour` -/
def verifyHour (text : ℤ → String) (result : LoadResult) (s : Stage) : Except Exc VerifyResult :=
  let inPg := s.countBetween result.hour (result.hour + hourUs)
  let drift : ℤ := result.extracted - inPg
  if result.extracted ≠ 0 ∧ drift ≠ 0 then
    .error ⟨"ValueError", "rollup drift for " ++ text result.hour ++ ": extracted " ++
      toString result.extracted ++ " but Postgres holds " ++ toString inPg, [.valueError]⟩
  else .ok ⟨result, inPg, drift⟩

/-- Where the DAG run of an hour stands. -/
inductive Phase where
  /-- Between two pokes of the sensor. -/
  | waiting (retries : ℕ)
  /-- The sensor has counted some cities, and has some to count. -/
  | sensing (retries total : ℕ) (todo : List String)
  /-- The extract has read some cities, and has some to read. -/
  | extracting (retries : ℕ) (read : List (String × CityHourRow)) (todo : List String)
  | verifying (retries : ℕ) (result : LoadResult)
  | succeeded
  | failed

/-- The partition of a city and the hour, with its primary key.
Source: `sql/cassandra/schema.cql` `trips_by_city_hour` -/
structure Partition where
  rows : List CityHourRow
  nodup : (rows.map fun r => r.tripId).Nodup

namespace Partition

/-- No row has landed. -/
def empty : Partition := ⟨[], List.nodup_nil⟩

/-- A row is written over the row of its trip. -/
def write (p : Partition) (row : CityHourRow) : Partition where
  rows := upsertWith (fun r => r.tripId) (fun _ new => new) row p.rows
  nodup := nodup_upsertWith (fun _ _ h => h.symm) p.nodup

variable {p : Partition} {row r r' : CityHourRow}

/-- A write leaves the new row besides the old ones of other trips. -/
theorem mem_write : r ∈ (p.write row).rows ↔ r = row ∨ r ∈ p.rows ∧ r.tripId ≠ row.tripId :=
  mem_replace_iff p.nodup

/-- A trip has one row. -/
theorem eq_of_tripId (hr : r ∈ p.rows) (hr' : r' ∈ p.rows) (h : r.tripId = r'.tripId) : r = r' :=
  List.inj_on_of_nodup_map p.nodup hr hr' h

end Partition

/-- The table of an hour, the stage and the DAG run. -/
structure HourRun where
  table : String → Partition
  stage : Stage
  phase : Phase

/-- What happens next. `now` is `now()` of a transaction. -/
inductive Action where
  /-- The sink or the drain writes a row. -/
  | write (city : String) (row : CityHourRow)
  /-- The task under way goes on: a poke, a SELECT, the load or the check. -/
  | goOn (now : ℤ)
  /-- The task under way raises. -/
  | interrupt
  /-- The load is committed, and the task raises. -/
  | lose (now : ℤ)
  /-- The sensor has waited too long. -/
  | timeout

/-- The row belongs to the hour. -/
def CityHourRow.In (r : CityHourRow) (hour : ℤ) : Bool :=
  r.eventTime.any fun us => hour ≤ us ∧ us < hour + hourUs

/-- A row is written to the table. -/
def writeRow (table : String → Partition) (city : String) (row : CityHourRow) :
    String → Partition :=
  Function.update table city ((table city).write row)

/-- The task under way is tried again from its start, or the DAG run fails. -/
def Phase.retry : Phase → Phase
  | .waiting (n + 1) | .sensing (n + 1) _ _ => .waiting n
  | .extracting (n + 1) _ _ => .extracting n [] cities
  | .verifying (n + 1) result => .verifying n result
  | .waiting 0 | .sensing 0 _ _ | .extracting 0 _ _ | .verifying 0 _ => .failed
  | .succeeded => .succeeded
  | .failed => .failed

section run

variable (casts : PgCasts) (text : ℤ → String) (hour : ℤ)

/-- The task under way goes on.
Source: `airflow/dags/trips_batch_rollup.py` `_data_has_landed`, `extract_and_load_hour` -/
def HourRun.goOn (s : HourRun) (now : ℤ) : HourRun :=
  match s.phase with
  | .waiting n => { s with phase := .sensing n 0 cities }
  | .sensing n total (city :: todo) =>
      { s with phase := .sensing n (total + (s.table city).rows.length) todo }
  | .sensing n total [] =>
      { s with phase :=
          if minRowsToProceed ≤ total then .extracting taskRetries [] cities else .waiting n }
  | .extracting n read (city :: todo) =>
      { s with phase := .extracting n (read ++ (s.table city).rows.map (city, ·)) todo }
  | .extracting _ read [] =>
      match loadHour casts now hour read s.stage with
      | .ok (result, stage) => { s with stage := stage, phase := .verifying taskRetries result }
      | .error _ => { s with phase := s.phase.retry }
  | .verifying _ result =>
      match verifyHour text result s.stage with
      | .ok _ => { s with phase := .succeeded }
      | .error _ => { s with phase := s.phase.retry }
  | .succeeded | .failed => s

/-- One action, if it can happen. -/
def HourRun.next (s : HourRun) : Action → Option HourRun
  | .write city row =>
      if row.In hour then some { s with table := writeRow s.table city row } else none
  | .goOn now => some (s.goOn casts text hour now)
  | .interrupt => some { s with phase := s.phase.retry }
  | .lose now =>
      match s.phase with
      | .extracting _ read [] =>
          match loadHour casts now hour read s.stage with
          | .ok (_, stage) => some { s with stage := stage, phase := s.phase.retry }
          | .error _ => none
      | _ => none
  | .timeout =>
      match s.phase with
      | .waiting _ => some { s with phase := .failed }
      | _ => none

/-- A run of actions. -/
def HourRun.run (s : HourRun) : List Action → Option HourRun
  | [] => some s
  | a :: actions => (s.next casts text hour a).bind fun s => s.run actions

end run

/-! ## Rows that are still expected -/

/-- What an update sets of a row. -/
def CityHourRow.updated (r : CityHourRow) : Option ℤ × Option ℚ × Option String :=
  (r.eventTime, r.fareAmount, r.status)

/-- The stage holds the row: its trip, with the columns that every load of the trip sets. -/
def Stage.Holds (casts : PgCasts) (s : Stage) (r : CityHourRow) : Prop :=
  ∃ v, casts.updated r = .ok v ∧ (s.find r.tripId).map (fun row => row.updated) = some v

/-- What the attempt under way has read. -/
def Phase.read : Phase → List (String × CityHourRow)
  | .extracting _ read _ => read
  | _ => []

/-- The rows of the trip that other cities hold for the hour, and those that were read, are the row
in the columns that a load sets. -/
structure Agrees (s : HourRun) (city : String) (r : CityHourRow) : Prop where
  table : ∀ c ∈ cities, c ≠ city → ∀ r' ∈ (s.table c).rows, r'.tripId = r.tripId →
    r'.updated = r.updated
  read : ∀ q ∈ s.phase.read, q.2.tripId = r.tripId → q.2.updated = r.updated

section expected

variable (casts : PgCasts) (s : HourRun)

/-- The row of a city is loaded, or the extract has read its trip or is to read the city. -/
def Expected (city : String) (r : CityHourRow) : Prop :=
  match s.phase with
  | .waiting _ | .sensing .. | .failed => True
  | .extracting _ read todo =>
      city ∈ todo ∨ r.tripId ∈ (read.map fun q => q.2.tripId) ∨ s.stage.Holds casts r
  | .verifying .. | .succeeded => s.stage.Holds casts r

/-- Every row of the hour is expected, and the extract reads the cities of the list. -/
structure Accounted : Prop where
  rows : ∀ city ∈ cities, ∀ r ∈ (s.table city).rows, Agrees s city r ∧ Expected casts s city r
  todo : ∀ n read todo, s.phase = .extracting n read todo → todo ⊆ cities

/-- Every row of the hour is loaded. -/
def AllLoaded : Prop := ∀ city ∈ cities, ∀ r ∈ (s.table city).rows, s.stage.Holds casts r

/-- The action is no write, or writes an expected row. -/
def OnTime : Action → Prop
  | .write city row => city ∈ cities → Agrees s city row ∧ Expected casts s city row
  | _ => True

end expected

section step

variable {casts : PgCasts} {text : ℤ → String} {hour : ℤ} {s s' : HourRun}

/-- Rows that are alike in the columns an update sets are so in Postgres. -/
theorem updated_congr {r r' : CityHourRow} (h : r.updated = r'.updated) :
    casts.updated r = casts.updated r' := by
  obtain ⟨htime, hfare, hstatus⟩ : r.eventTime = r'.eventTime ∧ r.fareAmount = r'.fareAmount ∧
      r.status = r'.status := by
    simpa [CityHourRow.updated] using h
  unfold PgCasts.updated
  rw [htime, hfare, hstatus]

/-- **A load leaves a row** whose trip it has read, or that the stage holds. -/
theorem holds_of_loadHour {now : ℤ} {read : List (String × CityHourRow)} {stage stage' : Stage}
    {result : LoadResult} {r : CityHourRow}
    (h : loadHour casts now hour read stage = .ok (result, stage'))
    (hread : ∀ q ∈ read, q.2.tripId = r.tripId → q.2.updated = r.updated)
    (hr : r.tripId ∈ (read.map fun q => q.2.tripId) ∨ stage.Holds casts r) :
    stage'.Holds casts r := by
  obtain ⟨-, -, new, hnew, rfl⟩ := loadHour_ok h
  rcases hlast : lastRow read r.tripId with _ | q
  · obtain ⟨v, hv, hfind⟩ := hr.resolve_left (lastRow_eq_none_iff.mp hlast)
    exact ⟨v, hv, by rwa [find_insert_of_none hnew hlast]⟩
  · obtain ⟨hq, htrip⟩ := mem_of_lastRow hlast
    obtain ⟨v, hv, hfind⟩ := find_insert_of_last (s := stage) hnew hlast
    exact ⟨v, (updated_congr (hread q hq htrip)).symm.trans hv, hfind⟩

/-- What an extract still has to read, has read, or was in the stage before. -/
theorem expected_extracting {n : ℕ} {read : List (String × CityHourRow)} {todo : List String}
    (hphase : s.phase = .extracting n read todo) {city : String} {r : CityHourRow} :
    Expected casts s city r ↔ city ∈ todo ∨ r.tripId ∈ (read.map fun q => q.2.tripId) ∨
      s.stage.Holds casts r := by
  unfold Expected
  rw [hphase]

/-- Once loaded, a row is expected in the stage. -/
theorem expected_verifying {n : ℕ} {result : LoadResult} (hphase : s.phase = .verifying n result)
    {city : String} {r : CityHourRow} : Expected casts s city r ↔ s.stage.Holds casts r := by
  unfold Expected
  rw [hphase]

/-- At the end a row is expected in the stage. -/
theorem expected_succeeded (hphase : s.phase = .succeeded) {city : String} {r : CityHourRow} :
    Expected casts s city r ↔ s.stage.Holds casts r := by
  unfold Expected
  rw [hphase]

/-- A phase in which nothing was read takes over what the table says. -/
theorem Agrees.of_read_nil {city : String} {r : CityHourRow} (h : Agrees s city r) {stage : Stage}
    {phase : Phase} (hphase : phase.read = []) :
    Agrees { s with stage := stage, phase := phase } city r := by
  refine ⟨h.table, fun q hq => ?_⟩
  rw [show ({ s with stage := stage, phase := phase } : HourRun).phase.read = [] from hphase] at hq
  cases hq

/-- A task that is tried again has read nothing. -/
theorem Phase.read_retry (p : Phase) : p.retry.read = [] := by
  rcases p with (_ | n) | ⟨_ | n, _, _⟩ | ⟨_ | n, _, _⟩ | ⟨_ | n, _⟩ | _ | _ <;> rfl

/-- What is expected stays so when a task is tried again. -/
theorem expected_retry {city : String} {r : CityHourRow} (hcity : city ∈ cities)
    (h : Expected casts s city r) : Expected casts { s with phase := s.phase.retry } city r := by
  obtain ⟨table, stage, phase⟩ := s
  cases phase with
  | waiting n => cases n <;> trivial
  | sensing n total todo => cases n <;> trivial
  | extracting n read todo =>
      cases n with
      | zero => trivial
      | succ n => exact Or.inl hcity
  | verifying n result =>
      cases n with
      | zero => trivial
      | succ n => exact h
  | succeeded => exact h
  | failed => trivial

/-- An extract that is tried again reads every city, whatever the stage holds. -/
theorem expected_retry_extracting {n : ℕ} {read : List (String × CityHourRow)} {todo : List String}
    (hphase : s.phase = .extracting n read todo) {stage : Stage} {city : String} {r : CityHourRow}
    (hcity : city ∈ cities) :
    Expected casts { s with stage := stage, phase := s.phase.retry } city r := by
  rw [hphase]
  cases n with
  | zero => trivial
  | succ n => exact Or.inl hcity

/-- A task that is tried again reads the cities of the list. -/
theorem todo_retry {p : Phase} {n : ℕ} {read : List (String × CityHourRow)} {todo : List String}
    (h : p.retry = .extracting n read todo) : todo ⊆ cities := by
  rcases p with (_ | n) | ⟨_ | n, _, _⟩ | ⟨_ | n, _, _⟩ | ⟨_ | n, _⟩ | _ | _ <;> cases h
  exact List.Subset.refl _

/-- A retry of the task accounts for every row again. -/
theorem Accounted.retry (hs : Accounted casts s) :
    Accounted casts { s with phase := s.phase.retry } := by
  refine ⟨fun city hcity r hr => ?_, fun n read todo h => todo_retry h⟩
  obtain ⟨hagrees, hexpected⟩ := hs.rows city hcity r hr
  exact ⟨hagrees.of_read_nil s.phase.read_retry, expected_retry hcity hexpected⟩

/-- The extract reads a city: what was read agrees, and a row is read or still expected. -/
theorem Accounted.read {n : ℕ} {read : List (String × CityHourRow)} {c : String}
    {todo : List String} (hs : Accounted casts s)
    (hphase : s.phase = .extracting n read (c :: todo)) :
    Accounted casts
      { s with phase := .extracting n (read ++ (s.table c).rows.map (c, ·)) todo } := by
  have hc := hs.todo n read (c :: todo) hphase
  refine ⟨fun city hcity r hr => ⟨?_, ?_⟩, ?_⟩
  · obtain ⟨hagrees, -⟩ := hs.rows city hcity r hr
    refine ⟨hagrees.table, fun q hq htrip => ?_⟩
    rcases List.mem_append.mp hq with hq | hq
    · exact hagrees.read q (by rwa [hphase]) htrip
    · obtain ⟨r', hr', rfl⟩ := List.mem_map.mp hq
      by_cases hsame : c = city
      · subst hsame
        rw [Partition.eq_of_tripId hr' hr htrip]
      · exact hagrees.table c (hc List.mem_cons_self) hsame r' hr' htrip
  · rw [expected_extracting rfl, List.map_append, List.mem_append]
    rcases (expected_extracting hphase).mp (hs.rows city hcity r hr).2 with htodo | hread | hstage
    · rcases List.mem_cons.mp htodo with rfl | htodo
      · refine Or.inr (Or.inl (Or.inr ?_))
        rw [List.map_map]
        exact List.mem_map_of_mem hr
      · exact Or.inl htodo
    · exact Or.inr (Or.inl (Or.inl hread))
    · exact Or.inr (Or.inr hstage)
  · rintro n' read' todo' ⟨⟩
    exact fun c' hc' => hc (List.mem_cons_of_mem c hc')

/-- The load: what was read is in the stage. -/
theorem Accounted.load {n : ℕ} {now : ℤ} {read : List (String × CityHourRow)} {stage : Stage}
    {result : LoadResult} (hs : Accounted casts s) (hphase : s.phase = .extracting n read [])
    (hload : loadHour casts now hour read s.stage = .ok (result, stage)) {city : String}
    (hcity : city ∈ cities) {r : CityHourRow} (hr : r ∈ (s.table city).rows) :
    stage.Holds casts r := by
  obtain ⟨hagrees, hexpected⟩ := hs.rows city hcity r hr
  refine holds_of_loadHour hload (fun q hq => hagrees.read q (by rwa [hphase])) ?_
  exact ((expected_extracting hphase).mp hexpected).resolve_left List.not_mem_nil

/-- What is expected stays so when the task under way goes on. -/
theorem goOn_accounted {now : ℤ} (hs : Accounted casts s) :
    Accounted casts (s.goOn casts text hour now) := by
  unfold HourRun.goOn
  split
  · exact ⟨fun city hcity r hr => ⟨(hs.rows city hcity r hr).1.of_read_nil rfl, trivial⟩,
      fun _ _ _ h => by cases h⟩
  · exact ⟨fun city hcity r hr => ⟨(hs.rows city hcity r hr).1.of_read_nil rfl, trivial⟩,
      fun _ _ _ h => by cases h⟩
  · split_ifs
    · refine ⟨fun city hcity r hr =>
        ⟨(hs.rows city hcity r hr).1.of_read_nil rfl, Or.inl hcity⟩, ?_⟩
      rintro n read todo ⟨⟩
      exact List.Subset.refl _
    · exact ⟨fun city hcity r hr => ⟨(hs.rows city hcity r hr).1.of_read_nil rfl, trivial⟩,
        fun _ _ _ h => by cases h⟩
  · rename_i hphase
    exact hs.read hphase
  · rename_i hphase
    split
    · rename_i hload
      exact ⟨fun city hcity r hr => ⟨(hs.rows city hcity r hr).1.of_read_nil rfl,
        hs.load hphase hload hcity hr⟩, fun _ _ _ h => by cases h⟩
    · exact hs.retry
  · rename_i hphase
    split
    · refine ⟨fun city hcity r hr => ?_, fun _ _ _ h => by cases h⟩
      obtain ⟨hagrees, hexpected⟩ := hs.rows city hcity r hr
      exact ⟨hagrees.of_read_nil rfl, (expected_verifying hphase).mp hexpected⟩
    · exact hs.retry
  · exact hs
  · exact hs

/-- A row of the table after a write. -/
theorem mem_writeRow {table : String → Partition} {city c : String} {row r : CityHourRow}
    (h : r ∈ (writeRow table city row c).rows) : (c = city ∧ r = row) ∨ r ∈ (table c).rows := by
  unfold writeRow at h
  by_cases hc : c = city
  · subst hc
    rw [Function.update_self, Partition.mem_write] at h
    exact h.imp (fun hr => ⟨rfl, hr⟩) And.left
  · rw [Function.update_of_ne hc] at h
    exact Or.inr h

/-- A write on time. -/
theorem Accounted.write {city : String} {row : CityHourRow} (hs : Accounted casts s)
    (htime : OnTime casts s (.write city row)) :
    Accounted casts { s with table := writeRow s.table city row } := by
  refine ⟨fun c hc r hr => ?_, hs.todo⟩
  rcases mem_writeRow hr with ⟨rfl, rfl⟩ | hold
  · -- the new row; the other cities are as they were
    obtain ⟨hagrees, hexpected⟩ := htime hc
    refine ⟨⟨fun c' hc' hne r' hr' => ?_, hagrees.read⟩, hexpected⟩
    exact hagrees.table c' hc' hne r' ((mem_writeRow hr').resolve_left fun h => hne h.1)
  · -- an old row; its trip may have got a row in another city
    obtain ⟨hagrees, hexpected⟩ := hs.rows c hc r hold
    refine ⟨⟨fun c' hc' hne r' hr' htrip => ?_, hagrees.read⟩, hexpected⟩
    rcases mem_writeRow hr' with ⟨rfl, rfl⟩ | hold'
    · exact ((htime hc').1.table c hc hne.symm r hold htrip.symm).symm
    · exact hagrees.table c' hc' hne r' hold' htrip

/-- **An action on time keeps every row of the hour expected.** -/
theorem next_accounted {a : Action} (h : s.next casts text hour a = some s')
    (htime : OnTime casts s a) (hs : Accounted casts s) : Accounted casts s' := by
  cases a with
  | write city row =>
      rw [HourRun.next] at h
      split_ifs at h
      obtain rfl := Option.some.inj h
      exact hs.write htime
  | goOn now =>
      obtain rfl := Option.some.inj h
      exact goOn_accounted hs
  | interrupt =>
      obtain rfl := Option.some.inj h
      exact hs.retry
  | lose now =>
      rw [HourRun.next] at h
      split at h
      · rename_i hphase
        split at h
        · obtain rfl := Option.some.inj h
          refine ⟨fun city hcity r hr => ?_, fun n read todo h => todo_retry h⟩
          exact ⟨(hs.rows city hcity r hr).1.of_read_nil s.phase.read_retry,
            expected_retry_extracting hphase hcity⟩
        · cases h
      · cases h
  | timeout =>
      rw [HourRun.next] at h
      split at h
      · obtain rfl := Option.some.inj h
        exact ⟨fun city hcity r hr => ⟨(hs.rows city hcity r hr).1.of_read_nil rfl, trivial⟩,
          fun _ _ _ h => by cases h⟩
      · cases h

end step

/-! ## Whole runs -/

/-- Every write of a run is on time. -/
def Timely (casts : PgCasts) (text : ℤ → String) (hour : ℤ) (s : HourRun) : List Action → Prop
  | [] => True
  | a :: actions => OnTime casts s a ∧ ∀ s', s.next casts text hour a = some s' →
      Timely casts text hour s' actions

section runs

variable {casts : PgCasts} {text : ℤ → String} {hour : ℤ} {s s' : HourRun}

/-- Every row stays expected through a run whose writes are on time. -/
theorem run_accounted {actions : List Action} (h : s.run casts text hour actions = some s')
    (htimely : Timely casts text hour s actions) (hs : Accounted casts s) :
    Accounted casts s' := by
  induction actions generalizing s with
  | nil =>
      obtain rfl := Option.some.inj h
      exact hs
  | cons a actions ih =>
      obtain ⟨t, hnext, hrun⟩ := Option.bind_eq_some_iff.mp h
      exact ih hrun (htimely.2 t hnext) (next_accounted hnext htimely.1 hs)

/-- Without writes nothing is late. -/
theorem timely_goOn {actions : List Action} (h : ∀ a ∈ actions, ∃ now, a = .goOn now) :
    Timely casts text hour s actions := by
  induction actions generalizing s with
  | nil => trivial
  | cons a actions ih =>
      obtain ⟨now, rfl⟩ := h a List.mem_cons_self
      exact ⟨trivial, fun t _ => ih fun b hb => h b (List.mem_cons_of_mem _ hb)⟩

/-- **A DAG run that succeeded has loaded every row of its hour**, when each row that is written
agrees with the others of its trip and is not written after its city had been read, unless its trip
was read or the row is loaded already. -/
theorem run_complete {retries : ℕ} {actions : List Action} (hstart : s.phase = .waiting retries)
    (hagrees : ∀ city ∈ cities, ∀ r ∈ (s.table city).rows, Agrees s city r)
    (h : s.run casts text hour actions = some s') (htimely : Timely casts text hour s actions)
    (hdone : s'.phase = .succeeded) : AllLoaded casts s' := by
  have hinit : Accounted casts s := by
    refine ⟨fun city hcity r hr => ⟨hagrees city hcity r hr, ?_⟩, fun n read todo h => ?_⟩
    · unfold Expected
      rw [hstart]
      trivial
    · rw [hstart] at h
      cases h
  intro city hcity r hr
  exact (expected_succeeded hdone).mp ((run_accounted h htimely hinit).rows city hcity r hr).2

end runs

/-! ## Two runs -/

/-- A trip of the first hour. -/
def hourTrip (trip : ℕ) : CityHourRow := { sampleRow "completed" 5 with tripId := trip }

/-- No row has landed yet. -/
def earlyRun : HourRun := ⟨fun _ => .empty, emptyStage, .waiting taskRetries⟩

/-- One row lands, and the sensor lets the extract read every city. -/
def untilRead : List Action := .write "nyc" (hourTrip 1) :: List.replicate 18 (.goOn 0)

/-- The load and the check. -/
def loadAndVerify : List Action := [.goOn 0, .goOn 0]

/-- The run of an hour that is finished when the sensor looks. -/
theorem run_complete_early :
    ∃ s', earlyRun.run plainCasts toString 0 (untilRead ++ loadAndVerify) = some s' ∧
      AllLoaded plainCasts s' := by
  obtain ⟨s', hs', hdone⟩ : ∃ s',
      earlyRun.run plainCasts toString 0 (untilRead ++ loadAndVerify) = some s' ∧
        s'.phase = .succeeded := ⟨_, rfl, rfl⟩
  have hagrees : Agrees earlyRun "nyc" (hourTrip 1) :=
    ⟨fun _ _ _ _ hr => absurd hr List.not_mem_nil, fun _ hq => absurd hq List.not_mem_nil⟩
  have htimely : Timely plainCasts toString 0 earlyRun (untilRead ++ loadAndVerify) := by
    refine ⟨fun _ => ⟨hagrees, trivial⟩, fun t _ => timely_goOn fun a ha => ?_⟩
    rcases List.mem_append.mp ha with hread | hload
    · exact ⟨0, List.eq_of_mem_replicate hread⟩
    · exact ⟨0, List.eq_of_mem_replicate (n := 2) hload⟩
  exact ⟨s', hs', run_complete rfl (fun _ _ _ hr => absurd hr List.not_mem_nil) hs' htimely hdone⟩

/-- A second row lands after the extract has read its city: the check compares with what was
extracted, and the run succeeds without it. -/
theorem lateRow_missed :
    ∃ s', earlyRun.run plainCasts toString 0
        (untilRead ++ .write "nyc" (hourTrip 2) :: loadAndVerify) = some s' ∧
      s'.phase = .succeeded ∧ ¬AllLoaded plainCasts s' := by
  refine ⟨_, rfl, rfl, fun h => ?_⟩
  obtain ⟨v, -, hv⟩ :=
    h "nyc" List.mem_cons_self (hourTrip 2) (List.mem_cons_of_mem _ List.mem_cons_self)
  have hnone : (none : Option (ℤ × ℚ × String)) = some v := hv
  cases hnone

end TripPipeline.Rollup
