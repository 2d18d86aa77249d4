import TripPipeline.Rollup.Stage

/-!
# What a load makes of earlier rows

Both DAGs insert a trip they have not loaded before with its fifteen columns. A trip that stands in
`trips_rollup_stage` already gets three of them: the update sets `event_time`, `fare_amount` and
`status`, and leaves the others as an earlier load wrote them.

* `toStageColumns_onConflict_iff`: an update gives the new row iff the old one has its other
  columns.
* `lastRow`, `find_insert_of_last`: of several rows of a trip, the last one gives the three columns.
* `converged_iff`: a load leaves the rows it read iff the rows of their trips before agreed with
  them in the columns that are not set. Where two tables did, the same load makes them agree.
-/

namespace TripPipeline.Rollup

open TripPipeline.Common TripPipeline.Lib

/-! ## One row -/

/-- The columns an update leaves as they are, with the others blanked. -/
def StageColumns.kept (c : StageColumns) : StageColumns :=
  { c with eventTime := 0, fareAmount := 0, status := "" }

/-- **An update gives the new row iff the old one agrees in the columns it leaves.** -/
theorem toStageColumns_onConflict_iff (old new : StageRow) :
    (onConflict old new).toStageColumns = new.toStageColumns ↔ old.kept = new.kept := by
  obtain ⟨⟨⟩, _⟩ := old
  obtain ⟨⟨⟩, _⟩ := new
  simp [onConflict, StageColumns.kept]

/-- Casting a tuple leaves its trip. -/
theorem columns_tripId {casts : PgCasts} {t : StageTuple} {c : StageColumns}
    (h : casts.columns t = .ok c) : c.tripId = t.tripId := by
  unfold PgCasts.columns at h
  repeat obtain ⟨_, -, h⟩ := bind_eq_ok_iff.mp h
  rw [← Except.ok.inj h]

/-- The row of a trip is about that trip. -/
theorem RowOf.tripId {casts : PgCasts} {r : String × CityHourRow} {row : StageRow}
    (h : RowOf casts r row) : row.tripId = r.2.tripId := columns_tripId h

/-- The rows that are loaded are of the trips that were read. -/
theorem map_tripId_of_rowOf {casts : PgCasts} {rows : List (String × CityHourRow)}
    {new : List StageRow} (h : List.Forall₂ (RowOf casts) rows new) :
    (new.map fun row => row.tripId) = rows.map fun r => r.2.tripId := by
  induction h with
  | nil => rfl
  | cons hrow _ ih => rw [List.map_cons, List.map_cons, ih, hrow.tripId]

/-! ## The last row of a trip -/

/-- The columns an update sets. -/
def StageColumns.updated (c : StageColumns) : ℤ × ℚ × String :=
  (c.eventTime, c.fareAmount, c.status)

/-- What Postgres makes of these columns of a row. -/
def PgCasts.updated (casts : PgCasts) (r : CityHourRow) : Except Exc (ℤ × ℚ × String) := do
  let eventTime ← notNull "event_time" r.eventTime
  let fareAmount ← casts.numeric (orNumber r.fareAmount 0)
  let status ← casts.text (← notNull "status" r.status)
  .ok (eventTime, fareAmount, status)

/-- The last of the rows of a trip. -/
def lastRow (rows : List (String × CityHourRow)) (trip : ℕ) : Option (String × CityHourRow) :=
  lookupKey (fun r => r.2.tripId) trip rows.reverse

/-- The row that is loaded has the columns Postgres makes of the row that was read. -/
theorem RowOf.updated {casts : PgCasts} {r : String × CityHourRow} {row : StageRow}
    (h : RowOf casts r row) : casts.updated r.2 = .ok row.updated := by
  unfold RowOf PgCasts.columns at h
  obtain ⟨_, -, h⟩ := bind_eq_ok_iff.mp h
  obtain ⟨us, hus, h⟩ := bind_eq_ok_iff.mp h
  -- from `city_id` to `duration_sec`
  iterate 15 obtain ⟨_, -, h⟩ := bind_eq_ok_iff.mp h
  obtain ⟨fare, hfare, h⟩ := bind_eq_ok_iff.mp h
  obtain ⟨_, -, h⟩ := bind_eq_ok_iff.mp h
  obtain ⟨status, hstatus, h⟩ := bind_eq_ok_iff.mp h
  obtain ⟨text, htext, h⟩ := bind_eq_ok_iff.mp h
  rw [← Except.ok.inj h]
  refine bind_eq_ok_iff.mpr ⟨us, hus, bind_eq_ok_iff.mpr ⟨fare, hfare, ?_⟩⟩
  exact bind_eq_ok_iff.mpr ⟨status, hstatus, bind_eq_ok_iff.mpr ⟨text, htext, rfl⟩⟩

section last

variable {rows rows' : List (String × CityHourRow)} {trip : ℕ} {r : String × CityHourRow}

/-- The last row of a trip is one of the rows, and of the trip. -/
theorem mem_of_lastRow (h : lastRow rows trip = some r) : r ∈ rows ∧ r.2.tripId = trip := by
  unfold lastRow at h
  have htrip := key_of_lookupKey h
  exact ⟨List.mem_reverse.mp (mem_of_lookupKey h), htrip⟩

/-- A trip has no last row iff it has none. -/
theorem lastRow_eq_none_iff : lastRow rows trip = none ↔ trip ∉ rows.map fun r => r.2.tripId := by
  rw [lastRow, lookupKey_eq_none_iff, List.map_reverse, List.mem_reverse]

/-- Later rows come last. -/
theorem lastRow_append :
    lastRow (rows ++ rows') trip = (lastRow rows' trip).or (lastRow rows trip) := by
  rw [lastRow, List.reverse_append, lookupKey_append]
  rfl

variable {casts : PgCasts} {new : List StageRow} {s : Stage}

/-- **A load leaves the columns of the last row of a trip.** -/
theorem find_insert_of_last (h : List.Forall₂ (RowOf casts) rows new)
    (hlast : lastRow rows trip = some r) : ∃ v, casts.updated r.2 = .ok v ∧
      ((s.insert new).find trip).map (fun row => row.updated) = some v := by
  have hmap := map_lookup_upsertAll tripId_onConflict (f := fun row : StageRow => row.updated)
    (fun _ _ => rfl) new s.rows trip
  rcases lookupKey_forall₂ (List.forall₂_reverse_iff.mpr h) (fun _ _ hof => hof.tripId) trip with
    ⟨hnone, -⟩ | ⟨x, row, hof, hx, hrow⟩
  · rw [lastRow, hnone] at hlast
    cases hlast
  · obtain rfl : x = r := Option.some.inj (hx.symm.trans hlast)
    refine ⟨row.updated, hof.updated, hmap.trans ?_⟩
    rw [hrow]
    rfl

/-- And it leaves the trips it has no row of. -/
theorem find_insert_of_none (h : List.Forall₂ (RowOf casts) rows new)
    (hnone : lastRow rows trip = none) : (s.insert new).find trip = s.find trip := by
  apply lookup_upsertAll_of_notMem tripId_onConflict
  rwa [map_tripId_of_rowOf h, ← lastRow_eq_none_iff]

end last

/-! ## One load -/

/-- Every row stands in the table with all its columns. -/
def Converged (casts : PgCasts) (rows : List (String × CityHourRow)) (s : Stage) : Prop :=
  ∀ r ∈ rows, ∃ columns, casts.columns (stageTuple r.1 r.2) = .ok columns ∧
    (s.find r.2.tripId).map StageRow.toStageColumns = some columns

/-- A row of the same trip in the table agrees with it in the columns an update leaves. -/
def Refreshable (casts : PgCasts) (rows : List (String × CityHourRow)) (s : Stage) : Prop :=
  ∀ r ∈ rows, ∀ old, s.find r.2.tripId = some old →
    ∀ columns, casts.columns (stageTuple r.1 r.2) = .ok columns → old.kept = columns.kept

section load

variable {casts : PgCasts} {rows : List (String × CityHourRow)} {new : List StageRow} {s : Stage}

/-- The row of a trip after a load. -/
theorem find_insert (h : List.Forall₂ (RowOf casts) rows new)
    (hdistinct : (rows.map fun r => r.2.tripId).Nodup) {r : String × CityHourRow} (hr : r ∈ rows) :
    ∃ row, RowOf casts r row ∧ (s.insert new).find r.2.tripId =
      some ((s.find r.2.tripId).elim row fun old => onConflict old row) := by
  obtain ⟨row, hrow, hof⟩ := exists_of_mem_left h hr
  rw [← map_tripId_of_rowOf h] at hdistinct
  refine ⟨row, hof, ?_⟩
  rw [← hof.tripId]
  exact lookup_upsertAll tripId_onConflict hdistinct hrow

/-- **A load leaves its rows iff the table before could be refreshed.** -/
theorem converged_insert_iff (h : List.Forall₂ (RowOf casts) rows new)
    (hdistinct : (rows.map fun r => r.2.tripId).Nodup) :
    Converged casts rows (s.insert new) ↔ Refreshable casts rows s := by
  refine forall₂_congr fun r hr => ?_
  obtain ⟨row, hof, hfind⟩ := find_insert (s := s) h hdistinct hr
  have hcolumns : ∀ columns, casts.columns (stageTuple r.1 r.2) = .ok columns →
      columns = row.toStageColumns :=
    fun columns hc => Except.ok.inj (hc.symm.trans hof)
  rw [hfind]
  rcases s.find r.2.tripId with _ | old
  · refine iff_of_true ⟨_, hof, rfl⟩ ?_
    intro old hold
    cases hold
  · constructor
    · rintro ⟨columns, hc, hrow⟩ old' hold' columns' hc'
      obtain rfl := Option.some.inj hold'
      rw [hcolumns columns hc] at hrow
      rw [hcolumns columns' hc']
      exact (toStageColumns_onConflict_iff old row).mp (Option.some.inj hrow)
    · intro hkept
      have hrow := (toStageColumns_onConflict_iff old row).mpr (hkept old rfl _ hof)
      exact ⟨_, hof, congrArg some hrow⟩

/-- Two converged stages show the same columns of an extracted trip. -/
theorem Converged.find_eq {s' : Stage} (h : Converged casts rows s) (h' : Converged casts rows s')
    {r : String × CityHourRow} (hr : r ∈ rows) :
    (s.find r.2.tripId).map StageRow.toStageColumns =
      (s'.find r.2.tripId).map StageRow.toStageColumns := by
  obtain ⟨columns, hc, hfind⟩ := h r hr
  obtain ⟨columns', hc', hfind'⟩ := h' r hr
  rw [hfind, hfind', Except.ok.inj (hc.symm.trans hc')]

end load

/-! ## The two tasks -/

/-- Two tables that were loaded alike. -/
def LoadedAlike (rows : List (String × CityHourRow)) (s s' : Stage) : Prop :=
  ∀ r ∈ rows, (s.find r.2.tripId).map StageRow.toStageColumns =
    (s'.find r.2.tripId).map StageRow.toStageColumns

/-- **A task leaves the rows it read iff the rows of their trips before agree with them in the
columns it does not set**; and then so does every other table the task is run on. -/
theorem converged_iff {casts : PgCasts} {now now' : ℤ → ℤ} {cass : TripsByCityHour}
    {task : LoadTask} {s t s' t' : Stage} (h : task.run casts now cass s = .ok s')
    (h' : task.run casts now' cass t = .ok t')
    (hdistinct : ((task.rows cass).map fun r => r.2.tripId).Nodup) :
    (Converged casts (task.rows cass) s' ↔ Refreshable casts (task.rows cass) s) ∧
      (Refreshable casts (task.rows cass) s → Refreshable casts (task.rows cass) t →
        LoadedAlike (task.rows cass) s' t') := by
  obtain ⟨new, hnew, rfl⟩ := LoadTask.run_ok h
  obtain ⟨new', hnew', rfl⟩ := LoadTask.run_ok h'
  have hiff := converged_insert_iff (s := s) hnew hdistinct
  have hiff' := converged_insert_iff (s := t) hnew' hdistinct
  refine ⟨hiff, ?_⟩
  intro hs ht r hr
  exact (hiff.mpr hs).find_eq (hiff'.mpr ht) hr

/-! ## A trip that was loaded while it was under way -/

/-- Casts of values that fit their columns. -/
def plainCasts : PgCasts := ⟨.ok, .ok, .ok, .ok⟩

/-- A row of the trip, at two moments. -/
def sampleRow (status : String) (distanceKm : ℚ) : CityHourRow where
  tripId := 7
  eventId := some 1
  eventTime := some 0
  driverId := some "d-1"
  riderId := some "r-1"
  pickupZoneId := some 4
  dropoffZoneId := some 9
  vehicleClass := some "standard"
  paymentType := some "card"
  distanceKm := some distanceKm
  durationSec := some 600
  fareAmount := some 12
  surgeMultiplier := some 1
  status := some status

/-- The one row of the table. -/
def sampleTable (r : CityHourRow) : TripsByCityHour :=
  fun city hour => if city = "nyc" ∧ hour = 0 then [r] else []

/-- The empty stage table. -/
def emptyStage : Stage := ⟨[], List.nodup_nil⟩

/-- The first hour. -/
def firstHour : LoadTask := .extractAndLoadHour 0

/-- The general result at a trip that is loaded for the first time. -/
theorem converged_iff_first :
    ∃ s', firstHour.run plainCasts id (sampleTable (sampleRow "completed" 5)) emptyStage = .ok s' ∧
      (Converged plainCasts (firstHour.rows (sampleTable (sampleRow "completed" 5))) s' ↔
        Refreshable plainCasts (firstHour.rows (sampleTable (sampleRow "completed" 5)))
          emptyStage) := by
  obtain ⟨s', hs'⟩ : ∃ s', firstHour.run plainCasts id (sampleTable (sampleRow "completed" 5))
    emptyStage = .ok s' := ⟨_, rfl⟩
  exact ⟨s', hs', (converged_iff hs' hs' (List.nodup_singleton _)).1⟩

/-- A trip is loaded, its row changes, and it is loaded again: the distance stays the old one. -/
theorem reload_keeps_distance :
    ∃ s s', firstHour.run plainCasts id (sampleTable (sampleRow "in_progress" 2)) emptyStage =
        .ok s ∧
      firstHour.run plainCasts id (sampleTable (sampleRow "completed" 5)) s = .ok s' ∧
      ((firstHour.rows (sampleTable (sampleRow "completed" 5))).map fun r => r.2.tripId).Nodup ∧
      ¬Converged plainCasts (firstHour.rows (sampleTable (sampleRow "completed" 5))) s' := by
  refine ⟨_, _, rfl, rfl, List.nodup_singleton _, fun h => ?_⟩
  obtain ⟨columns, hc, hfind⟩ := h ("nyc", sampleRow "completed" 5) (List.mem_singleton_self _)
  rw [← Except.ok.inj hc] at hfind
  exact absurd (congrArg (Option.map StageColumns.distanceKm) hfind) (by decide)

end TripPipeline.Rollup
