import TripPipeline.Common.Retry
import TripPipeline.Lib.Except
import TripPipeline.Lib.KeyedTable

/-!
# From Cassandra to the stage table

The two DAGs that fill `trips_rollup_stage` run the same SELECT, build the same tuples and execute
the same INSERT: `extract_and_load_hour` of `airflow/dags/trips_batch_rollup.py` for one hour in one
transaction, `reprocess_window` of `airflow/dags/trips_backfill.py` for the hours of a window, one
transaction each.

* A `TripsByCityHour` gives the rows of each partition of `trips_by_city_hour`; instants are
  microseconds since the epoch. The columns outside the primary key may be null.
* `StageTuple` is the tuple a row is turned into, `StageColumns` what Postgres makes of it. The
  casts of the columns are a parameter (`PgCasts`). A row that cannot be cast, a null in a NOT NULL
  column and a trip that one INSERT would touch twice raise, and the transaction is undone.
* `executeValues_ok` is what a load leaves, whatever its pages.
* `LoadTask` is a run of either task, with the rows it reads; `LoadTask.run_ok` says that a run
  that ends normally has loaded just these.
-/

namespace TripPipeline.Rollup

open TripPipeline.Common TripPipeline.Lib

/-! ## What is read -/

/-- `CITIES`. -/
def cities : List String := ["nyc", "chi", "sfo", "lax", "bos", "sea", "aus", "mia"]

/-- A row of the SELECT on `trips_by_city_hour`. -/
structure CityHourRow where
  tripId : ℕ
  eventId : Option ℕ
  eventTime : Option ℤ
  driverId : Option String
  riderId : Option String
  pickupZoneId : Option ℤ
  dropoffZoneId : Option ℤ
  vehicleClass : Option String
  paymentType : Option String
  distanceKm : Option ℚ
  durationSec : Option ℤ
  fareAmount : Option ℚ
  surgeMultiplier : Option ℚ
  status : Option String

/-- The rows of the partition of a city and an `event_hour`. -/
abbrev TripsByCityHour := String → ℤ → List CityHourRow

/-- The rows an extract reads for an `event_hour`, city by city. -/
def extractRows (cass : TripsByCityHour) (hour : ℤ) : List (String × CityHourRow) :=
  cities.flatMap fun city => (cass city hour).map (city, ·)

/-! ## What is sent -/

/-- A tuple of the payload. `event_id` is `none` for the text `str(None)`. -/
structure StageTuple where
  tripId : ℕ
  eventId : Option ℕ
  eventTime : Option ℤ
  cityId : String
  driverId : Option String
  riderId : Option String
  pickupZoneId : Option ℤ
  dropoffZoneId : Option ℤ
  vehicleClass : Option String
  paymentType : Option String
  distanceKm : ℚ
  durationSec : ℤ
  fareAmount : ℚ
  surgeMultiplier : ℚ
  status : Option String

/-- `value or default` on a nullable number. -/
def orNumber {α : Type} [Zero α] [DecidableEq α] (value : Option α) (default : α) : α :=
  match value with
  | some x => if x = 0 then default else x
  | none => default

/-- The tuple of a row.
Source: `trips_batch_rollup.py` `extract_and_load_hour`, `trips_backfill.py` `reprocess_window` -/
def stageTuple (city : String) (r : CityHourRow) : StageTuple where
  tripId := r.tripId
  eventId := r.eventId
  eventTime := r.eventTime
  cityId := city
  driverId := r.driverId
  riderId := r.riderId
  pickupZoneId := r.pickupZoneId
  dropoffZoneId := r.dropoffZoneId
  vehicleClass := r.vehicleClass
  paymentType := r.paymentType
  distanceKm := orNumber r.distanceKm 0
  durationSec := orNumber r.durationSec 0
  fareAmount := orNumber r.fareAmount 0
  surgeMultiplier := orNumber r.surgeMultiplier 1
  status := r.status

/-! ## The stage table -/

/-- The columns the INSERT sets. Every column is NOT NULL.
Source: `sql/analytics/03_rollup_stage.sql` -/
structure StageColumns where
  tripId : ℕ
  eventId : ℕ
  eventTime : ℤ
  cityId : String
  driverId : String
  riderId : String
  pickupZoneId : ℤ
  dropoffZoneId : ℤ
  vehicleClass : String
  paymentType : String
  distanceKm : ℚ
  durationSec : ℤ
  fareAmount : ℚ
  surgeMultiplier : ℚ
  status : String
  deriving DecidableEq

/-- A row of `trips_rollup_stage`. -/
structure StageRow extends StageColumns where
  loadedAt : ℤ
  deriving DecidableEq

/-- `trips_rollup_stage`, with its primary key. -/
structure Stage where
  rows : List StageRow
  nodup : (rows.map fun r => r.tripId).Nodup

namespace Stage

/-- The row of a trip. -/
def find (s : Stage) (trip : ℕ) : Option StageRow :=
  lookupKey (fun r : StageRow => r.tripId) trip s.rows

/-- `SELECT COUNT(*) ... WHERE event_time >= start AND event_time < stop`. -/
def countBetween (s : Stage) (start stop : ℤ) : ℕ :=
  s.rows.countP fun r => start ≤ r.eventTime ∧ r.eventTime < stop

end Stage

/-- The casts to `integer`, `real` and `numeric(10,2)`, and the check of a text literal. -/
structure PgCasts where
  integer : ℤ → Except Exc ℤ
  real : ℚ → Except Exc ℚ
  numeric : ℚ → Except Exc ℚ
  text : String → Except Exc String

/-- A NOT NULL column. -/
def notNull {α : Type} (column : String) : Option α → Except Exc α
  | some a => .ok a
  | none => .error ⟨"NotNullViolation", "null value in column \"" ++ column ++
      "\" of relation \"trips_rollup_stage\" violates not-null constraint", []⟩

/-- The cast of a text to `uuid`. -/
def uuidCast : Option ℕ → Except Exc ℕ
  | some n => .ok n
  | none => .error ⟨"InvalidTextRepresentation", "invalid input syntax for type uuid: \"None\"", []⟩

/-- The columns Postgres makes of a tuple. -/
def PgCasts.columns (casts : PgCasts) (t : StageTuple) : Except Exc StageColumns := do
  let eventId ← uuidCast t.eventId
  let eventTime ← notNull "event_time" t.eventTime
  let cityId ← casts.text t.cityId
  let driverId ← casts.text (← notNull "driver_id" t.driverId)
  let riderId ← casts.text (← notNull "rider_id" t.riderId)
  let pickupZoneId ← casts.integer (← notNull "pickup_zone_id" t.pickupZoneId)
  let dropoffZoneId ← casts.integer (← notNull "dropoff_zone_id" t.dropoffZoneId)
  let vehicleClass ← casts.text (← notNull "vehicle_class" t.vehicleClass)
  let paymentType ← casts.text (← notNull "payment_type" t.paymentType)
  let distanceKm ← casts.real t.distanceKm
  let durationSec ← casts.integer t.durationSec
  let fareAmount ← casts.numeric t.fareAmount
  let surgeMultiplier ← casts.real t.surgeMultiplier
  let status ← casts.text (← notNull "status" t.status)
  .ok ⟨t.tripId, eventId, eventTime, cityId, driverId, riderId, pickupZoneId, dropoffZoneId,
    vehicleClass, paymentType, distanceKm, durationSec, fareAmount, surgeMultiplier, status⟩

/-- `ON CONFLICT (trip_id) DO UPDATE SET ...`: the row under a key, and the row to be inserted. -/
def onConflict (old new : StageRow) : StageRow :=
  { old with
    eventTime := new.eventTime
    fareAmount := new.fareAmount
    status := new.status
    loadedAt := new.loadedAt }

/-- The merge of two rows of a trip is of the trip. -/
theorem tripId_onConflict (old new : StageRow) (_ : old.tripId = new.tripId) :
    (onConflict old new).tripId = old.tripId := rfl

/-! ## A load -/

/-- The rows inserted, one after the other. -/
def Stage.insert (s : Stage) (rows : List StageRow) : Stage where
  rows := upsertAll (fun r => r.tripId) onConflict rows s.rows
  nodup := nodup_upsertAll tripId_onConflict s.nodup

/-- One INSERT of a page. `now` is `now()`, the start of the transaction. -/
def insertPage (casts : PgCasts) (now : ℤ) (s : Stage) (page : List StageTuple) :
    Except Exc Stage := do
  let columns ← page.mapM casts.columns
  if (columns.map StageColumns.tripId).Nodup then
    .ok (s.insert (columns.map fun c => ⟨c, now⟩))
  else .error ⟨"CardinalityViolation",
    "ON CONFLICT DO UPDATE command cannot affect row a second time", []⟩

/-- `execute_values(cur, ..., payload, page_size=1000)`, and the commit. -/
def executeValues (casts : PgCasts) (now : ℤ) (payload : List StageTuple) (s : Stage) :
    Except Exc Stage :=
  (batched 1000 payload).foldlM (insertPage casts now) s

/-- What `extract_and_load_hour` returns. -/
structure LoadResult where
  hour : ℤ
  extracted : ℕ
  loaded : ℕ

/-- The load of the rows that were extracted. `cur.rowcount` is that of the last page. -/
def loadHour (casts : PgCasts) (now hour : ℤ) (rows : List (String × CityHourRow)) (s : Stage) :
    Except Exc (LoadResult × Stage) :=
  if rows.isEmpty then .ok (⟨hour, 0, 0⟩, s)
  else do
    let payload := rows.map fun r => stageTuple r.1 r.2
    let s ← executeValues casts now payload s
    .ok (⟨hour, rows.length, ((batched 1000 payload).getLast?.map List.length).getD 0⟩, s)

/-- The rollup of one hour, of a table that stands still.
Source: `trips_batch_rollup.py` `extract_and_load_hour` -/
def extractAndLoadHour (casts : PgCasts) (now : ℤ) (cass : TripsByCityHour) (hour : ℤ) (s : Stage) :
    Except Exc (LoadResult × Stage) :=
  loadHour casts now hour (extractRows cass hour) s

/-! ## A backfill -/

/-- The hours of the loop `while hour < end`. -/
def hoursFrom (hour stop : ℤ) : List ℤ :=
  if hour < stop then hour :: hoursFrom (hour + Datetime.hourUs) stop else []
termination_by (stop - hour).toNat
decreasing_by
  have : Datetime.hourUs = 3600000000 := rfl
  omega

/-- What the loop has done. -/
structure Progress where
  stage : Stage
  totalRead : ℕ
  totalLoaded : ℕ
  emptyHours : ℕ

/-- One turn of the loop. `now hour` is `now()` of its transaction. -/
def reprocessHour (casts : PgCasts) (now : ℤ → ℤ) (cass : TripsByCityHour) (p : Progress)
    (hour : ℤ) : Except Exc Progress :=
  let payload := (extractRows cass hour).map fun r => stageTuple r.1 r.2
  if payload.isEmpty then .ok { p with emptyHours := p.emptyHours + 1 }
  else do
    let stage ← executeValues casts (now hour) payload p.stage
    .ok { p with
      stage := stage
      totalRead := p.totalRead + payload.length
      totalLoaded := p.totalLoaded + payload.length }

/-- The loop of a backfill. One that raises keeps the hours it has committed.
Source: `trips_backfill.py` `reprocess_window` -/
def reprocessHours (casts : PgCasts) (now : ℤ → ℤ) (cass : TripsByCityHour) :
    List ℤ → Progress → Progress × Except Exc Unit
  | [], p => (p, .ok ())
  | hour :: hours, p =>
      match reprocessHour casts now cass p hour with
      | .ok p => reprocessHours casts now cass hours p
      | .error e => (p, .error e)

/-- `reprocess_window` on the instants of its plan. -/
def reprocessWindow (casts : PgCasts) (now : ℤ → ℤ) (cass : TripsByCityHour) (start stop : ℤ)
    (s : Stage) : Progress × Except Exc Unit :=
  reprocessHours casts now cass (hoursFrom start stop) ⟨s, 0, 0, 0⟩

/-! ## What a load leaves -/

/-- Inserting two lists is inserting one after the other. -/
theorem Stage.insert_append (s : Stage) (rows rows' : List StageRow) :
    s.insert (rows ++ rows') = (s.insert rows).insert rows' := by
  unfold Stage.insert upsertAll
  simp only [List.foldl_append]

/-- **A load leaves its rows, cast and inserted in order**, whatever the pages. -/
theorem executeValues_ok {casts : PgCasts} {now : ℤ} {payload : List StageTuple} {s s' : Stage}
    (h : executeValues casts now payload s = .ok s') :
    ∃ rows, List.Forall₂ (fun t (row : StageRow) => casts.columns t = .ok row.toStageColumns)
      payload rows ∧ s' = s.insert rows := by
  have hpages := foldlM_rec (P := fun pages t => ∃ rows,
    List.Forall₂ (fun t (row : StageRow) => casts.columns t = .ok row.toStageColumns)
      pages.flatten rows ∧ t = s.insert rows) h ⟨[], List.Forall₂.nil, rfl⟩ ?_
  · rwa [flatten_batched] at hpages
  · rintro done page t t' ⟨rows, hrows, rfl⟩ hstep
    obtain ⟨columns, hcolumns, hstep⟩ := bind_eq_ok_iff.mp hstep
    split_ifs at hstep
    obtain rfl := Except.ok.inj hstep
    refine ⟨rows ++ columns.map fun c => ⟨c, now⟩, ?_, (s.insert_append rows _).symm⟩
    rw [List.flatten_append, List.flatten_singleton]
    refine List.rel_append hrows ?_
    rw [List.forall₂_map_right_iff]
    exact mapM_eq_ok_iff.mp hcolumns

/-- The row is the one Postgres makes of `r`. -/
def RowOf (casts : PgCasts) (r : String × CityHourRow) (row : StageRow) : Prop :=
  casts.columns (stageTuple r.1 r.2) = .ok row.toStageColumns

/-- What a load of extracted rows leaves. -/
theorem executeValues_rows {casts : PgCasts} {now : ℤ} {rows : List (String × CityHourRow)}
    {s s' : Stage}
    (h : executeValues casts now (rows.map fun r => stageTuple r.1 r.2) s = .ok s') :
    ∃ new, List.Forall₂ (RowOf casts) rows new ∧ s' = s.insert new := by
  obtain ⟨new, hnew, hs'⟩ := executeValues_ok h
  rw [List.forall₂_map_left_iff] at hnew
  exact ⟨new, hnew, hs'⟩

/-- A load that returns has inserted the rows of what it was given. -/
theorem loadHour_ok {casts : PgCasts} {now hour : ℤ} {rows : List (String × CityHourRow)}
    {s s' : Stage} {res : LoadResult} (h : loadHour casts now hour rows s = .ok (res, s')) :
    res.hour = hour ∧ res.extracted = rows.length ∧
      ∃ new, List.Forall₂ (RowOf casts) rows new ∧ s' = s.insert new := by
  unfold loadHour at h
  split_ifs at h with hempty
  · obtain ⟨rfl, rfl⟩ := Prod.mk.inj (Except.ok.inj h)
    rw [List.isEmpty_iff.mp hempty]
    exact ⟨rfl, rfl, [], List.Forall₂.nil, rfl⟩
  · obtain ⟨t, ht, h⟩ := bind_eq_ok_iff.mp h
    obtain ⟨rfl, rfl⟩ := Prod.mk.inj (Except.ok.inj h)
    exact ⟨rfl, rfl, executeValues_rows ht⟩

/-- One turn of the loop. -/
theorem reprocessHour_ok {casts : PgCasts} {now : ℤ → ℤ} {cass : TripsByCityHour} {hour : ℤ}
    {p q : Progress} (h : reprocessHour casts now cass p hour = .ok q) :
    (∃ new, List.Forall₂ (RowOf casts) (extractRows cass hour) new ∧
        q.stage = p.stage.insert new) ∧
      q.totalRead = p.totalRead + (extractRows cass hour).length ∧
      q.emptyHours = p.emptyHours + if (extractRows cass hour).isEmpty then 1 else 0 := by
  unfold reprocessHour at h
  dsimp only at h
  rw [List.isEmpty_map] at h
  split_ifs at h with hempty
  · obtain rfl := Except.ok.inj h
    rw [if_pos hempty, List.isEmpty_iff.mp hempty]
    exact ⟨⟨[], List.Forall₂.nil, rfl⟩, rfl, rfl⟩
  · obtain ⟨t, ht, h⟩ := bind_eq_ok_iff.mp h
    obtain rfl := Except.ok.inj h
    rw [if_neg hempty]
    refine ⟨executeValues_rows ht, ?_, rfl⟩
    rw [List.length_map]

/-- What a backfill that ends normally leaves, and what it reports. -/
theorem reprocessHours_ok {casts : PgCasts} {now : ℤ → ℤ} {cass : TripsByCityHour}
    {hours : List ℤ} {p p' : Progress}
    (h : reprocessHours casts now cass hours p = (p', .ok ())) :
    (∃ new, List.Forall₂ (RowOf casts) (hours.flatMap (extractRows cass)) new ∧
        p'.stage = p.stage.insert new) ∧
      p'.totalRead = p.totalRead + (hours.flatMap (extractRows cass)).length ∧
      p'.emptyHours = p.emptyHours + hours.countP fun hour => (extractRows cass hour).isEmpty := by
  induction hours generalizing p with
  | nil =>
      obtain ⟨rfl, -⟩ := Prod.mk.inj h
      exact ⟨⟨[], List.Forall₂.nil, rfl⟩, rfl, rfl⟩
  | cons hour hours ih =>
      rw [reprocessHours] at h
      split at h
      · rename_i q hq
        obtain ⟨⟨rows, hrows, hone⟩, hreadOne, hemptyOne⟩ := reprocessHour_ok hq
        obtain ⟨⟨new, hnew, hstage⟩, hread, hempty⟩ := ih h
        rw [List.flatMap_cons, List.length_append, List.countP_cons]
        refine ⟨⟨rows ++ new, List.rel_append hrows hnew, ?_⟩, ?_, ?_⟩
        · rw [hstage, hone, Stage.insert_append]
        · rw [hread, hreadOne, Nat.add_assoc]
        · rw [hempty, hemptyOne, Nat.add_right_comm, Nat.add_assoc]
      · cases h

/-- A run of one of the two tasks. -/
inductive LoadTask where
  | extractAndLoadHour (hour : ℤ)
  | reprocessWindow (start stop : ℤ)

/-- The rows a task reads. -/
def LoadTask.rows (cass : TripsByCityHour) : LoadTask → List (String × CityHourRow)
  | .extractAndLoadHour hour => extractRows cass hour
  | .reprocessWindow start stop => (hoursFrom start stop).flatMap (extractRows cass)

/-- The stage table after a task that ends normally. -/
def LoadTask.run (casts : PgCasts) (now : ℤ → ℤ) (cass : TripsByCityHour) (s : Stage) :
    LoadTask → Except Exc Stage
  | .extractAndLoadHour hour =>
      (Rollup.extractAndLoadHour casts (now hour) cass hour s).map Prod.snd
  | .reprocessWindow start stop =>
      match Rollup.reprocessWindow casts now cass start stop s with
      | (p, .ok ()) => .ok p.stage
      | (_, .error e) => .error e

/-- **A task leaves the rows it reads**, cast and inserted in order. -/
theorem LoadTask.run_ok {casts : PgCasts} {now : ℤ → ℤ} {cass : TripsByCityHour} {s s' : Stage}
    {task : LoadTask} (h : task.run casts now cass s = .ok s') :
    ∃ new, List.Forall₂ (RowOf casts) (task.rows cass) new ∧ s' = s.insert new := by
  cases task with
  | extractAndLoadHour hour =>
      rw [LoadTask.run] at h
      rcases hload : Rollup.extractAndLoadHour casts (now hour) cass hour s with e | ⟨res, t⟩
      · rw [hload] at h
        cases h
      · rw [hload] at h
        obtain rfl : t = s' := Except.ok.inj h
        exact (loadHour_ok hload).2.2
  | reprocessWindow start stop =>
      rw [LoadTask.run] at h
      split at h
      · rename_i p hp
        obtain rfl := Except.ok.inj h
        exact (reprocessHours_ok hp).1
      · cases h

end TripPipeline.Rollup
