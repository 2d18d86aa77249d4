import TripPipeline.Flow.Generated
import TripPipeline.Rollup.Backfill

/-!
# From the generator to the warehouse

The batch layer runs beside the pipeline. Its tasks read `trips_by_city_hour` city by city while
rows still land, and load what they read into `trips_rollup_stage`; a task may fail anywhere and
begin again, and rollups and backfills may overlap. A load updates three columns of fifteen. Rows
that are read never change, so this shows nowhere: the stage table is write-once too.

* `LoadStep`, one constructor for each thing that can happen. `steps_of_task`: both tasks are such
  steps.
* `Extract.Faithful`: what holds of a task's attempt. What was visible when it began is read by the
  time it is loaded, whatever was written since.
* `stage_simulates`: the stage table follows a write-once table of the events of calls.
* `generated_reach_warehouse`: the result, for every order of steps.
-/

namespace TripPipeline.Flow

open Relation
open TripPipeline.Common TripPipeline.Lib TripPipeline.Producer
open TripPipeline.Streaming TripPipeline.Serving TripPipeline.Rollup
open TripPipeline.Replay (source_event)

/-! ## What a SELECT returns -/

/-- A number of an `int` column. -/
def intCell : PyVal → Option ℤ
  | .float x => if x.den = 1 then some x.num else none
  | _ => none

/-- What the SELECT of the extract returns for a visible row. -/
def hourTrip (row : Dict) : Option CityHourRow := do
  let trip ← uuidColumn (Dict.get row "trip_id")
  some
    { tripId := trip
      eventId := uuidColumn (Dict.get row "event_id")
      eventTime := timestampColumn (Dict.get row "event_time")
      driverId := textColumn (Dict.get row "driver_id")
      riderId := textColumn (Dict.get row "rider_id")
      pickupZoneId := intCell (Dict.get row "pickup_zone_id")
      dropoffZoneId := intCell (Dict.get row "dropoff_zone_id")
      vehicleClass := textColumn (Dict.get row "vehicle_class")
      paymentType := textColumn (Dict.get row "payment_type")
      distanceKm := doubleColumn (Dict.get row "distance_km")
      durationSec := intCell (Dict.get row "duration_sec")
      fareAmount := doubleColumn (Dict.get row "fare_amount")
      surgeMultiplier := doubleColumn (Dict.get row "surge_multiplier")
      status := textColumn (Dict.get row "status") }

/-- The SELECT on the partition of a city and an hour returns these rows. -/
structure Selects (s : PipelineState) (city : String) (hour : ℤ) (rows : List CityHourRow) :
    Prop where
  nodup : (rows.map fun r => r.tripId).Nodup
  mem_iff : ∀ r, r ∈ rows ↔ ∃ trip row, visible s (.tripsByCityHour,
    [.str city, .datetime ⟨hour, some 0⟩, .uuid trip]) = some row ∧ hourTrip row = some r

/-! ## States and steps -/

/-- An attempt to load an hour. -/
structure Extract where
  hour : ℤ
  /-- The cities that are still to be read. -/
  todo : List String
  read : List (String × CityHourRow)
  /-- The pipeline when the attempt began. Not data of the program. -/
  since : PipelineState

/-- The pipeline, the attempts under way and the stage table. -/
structure Warehouse where
  pipeline : PipelineState
  extracts : ℕ → Option Extract
  stage : Stage
  /-- The hours that were loaded, each with the pipeline when the attempt began. Not data of the
  program. -/
  loaded : List (ℤ × PipelineState)

namespace Warehouse

/-- No task has begun yet. -/
def idle (s : PipelineState) : Warehouse := ⟨s, fun _ => none, ⟨[], List.nodup_nil⟩, []⟩

/-- Nothing has happened yet. -/
def init : Warehouse := idle .init

/-- An attempt begins, goes on or ends. -/
def withExtract (w : Warehouse) (i : ℕ) (x : Option Extract) : Warehouse :=
  { w with extracts := Function.update w.extracts i x }

/-- The attempt that was set is found. -/
@[simp] theorem extracts_withExtract (w : Warehouse) (i : ℕ) (x : Option Extract) :
    (w.withExtract i x).extracts i = x := by
  simp [withExtract]

/-- Setting an attempt twice is setting it once. -/
theorem withExtract_withExtract (w : Warehouse) (i : ℕ) (x y : Option Extract) :
    (w.withExtract i x).withExtract i y = w.withExtract i y := by
  unfold withExtract
  rw [Function.update_idem]

/-- A load is committed. -/
def load (w : Warehouse) (stage : Stage) (x : Extract) : Warehouse :=
  { w with stage := stage, loaded := (x.hour, x.since) :: w.loaded }

end Warehouse

/-- The tuples of the rows an attempt has read. -/
def Extract.payload (x : Extract) : List StageTuple := x.read.map fun r => stageTuple r.1 r.2

/-- An attempt that begins. -/
def Extract.begin (hour : ℤ) (s : PipelineState) : Extract := ⟨hour, cities, [], s⟩

/-- An attempt that has read a city more. -/
def Extract.reads (x : Extract) (city : String) (todo : List String) (rows : List CityHourRow) :
    Extract :=
  { x with todo := todo, read := x.read ++ rows.map (city, ·) }

/-- What can happen next.
Source: `trips_batch_rollup.py` `extract_and_load_hour`, `trips_backfill.py` `reprocess_window` -/
inductive LoadStep (d : Deployment) (U : Set String) (casts : PgCasts) :
    Warehouse → Warehouse → Prop
  /-- The pipeline takes a step. -/
  | pipeline (w) {s} : StepIn d U w.pipeline s → LoadStep d U casts w { w with pipeline := s }
  /-- A task begins an hour, for the first time or again. -/
  | begin (w) (i : ℕ) (hour : ℤ) :
      LoadStep d U casts w (w.withExtract i (some (.begin hour w.pipeline)))
  /-- It reads the next city. -/
  | select (w) {i x city todo rows} : w.extracts i = some x → x.todo = city :: todo →
      Selects w.pipeline city (timestampParam x.hour) rows →
      LoadStep d U casts w (w.withExtract i (some (x.reads city todo rows)))
  /-- It commits what it has read. -/
  | commit (w) {i x now stage} : w.extracts i = some x → x.todo = [] →
      executeValues casts now x.payload w.stage = .ok stage →
      LoadStep d U casts w ((w.load stage x).withExtract i none)
  /-- It fails. -/
  | fail (w) (i : ℕ) : LoadStep d U casts w (w.withExtract i none)

/-- The states of the pipeline and the batch layer. -/
abbrev Loads (d : Deployment) (U : Set String) (casts : PgCasts) (w : Warehouse) : Prop :=
  Reachable (· = .init) (LoadStep d U casts) w

/-! ## The row of a call -/

/-- The hour of an event. -/
def hourOf (us : ℤ) : ℤ := millis us - millis us % Datetime.hourUs

/-- What the extract reads of the event of a call. -/
def readOf (c : Call) (us : ℤ) : String × CityHourRow :=
  (c.nextEvent.city.id,
    { tripId := c.tripId
      eventId := some c.eventId
      eventTime := some (millis us)
      driverId := some c.nextEvent.driverId
      riderId := some c.nextEvent.riderId
      pickupZoneId := some c.nextEvent.pickupZoneId
      dropoffZoneId := some c.nextEvent.dropoffZoneId
      vehicleClass := some c.nextEvent.vehicleClass.text
      paymentType := some c.nextEvent.paymentType.text
      distanceKm := some c.nextEvent.distanceKm
      durationSec := some c.nextEvent.durationSec
      fareAmount := some c.nextEvent.fareAmount
      surgeMultiplier := some c.nextEvent.surgeMultiplier
      status := some c.nextEvent.status })

/-- An integer is read back from its double. -/
theorem intCell_intCast (n : ℤ) : intCell (.float n) = some n := by
  simp [intCell]

/-- **The SELECT returns what the generator drew.** -/
theorem hourTrip_generatedRow {c : Call} {us : ℤ} (hwell : c.isMalformed = false) :
    hourTrip (generatedRow c us .tripsByCityHour) = some (readOf c us).2 := by
  have hpickup : Dict.get (generatedRow c us .tripsByCityHour) "pickup_zone_id" =
      .float c.nextEvent.pickupZoneId := rfl
  have hdropoff : Dict.get (generatedRow c us .tripsByCityHour) "dropoff_zone_id" =
      .float c.nextEvent.dropoffZoneId := rfl
  have hduration : Dict.get (generatedRow c us .tripsByCityHour) "duration_sec" =
      .float c.nextEvent.durationSec := rfl
  have hfare : Dict.get (generatedRow c us .tripsByCityHour) "fare_amount" =
      .float c.nextEvent.fareAmount := by
    show cell (.ofOption .float (if c.isMalformed then none else some c.nextEvent.fareAmount)) = _
    rw [if_neg (by simpa using hwell)]
    rfl
  have htime : Dict.get (generatedRow c us .tripsByCityHour) "event_time" =
      .datetime ⟨millis us, some 0⟩ := rfl
  rw [hourTrip, hpickup, hdropoff, hduration, hfare, htime, intCell_intCast, intCell_intCast,
    intCell_intCast]
  simp only [timestampColumn, Datetime.instant, Option.getD_some, sub_zero]
  rfl

/-- The stage table has the event of a call with these columns. -/
def LoadedAs (casts : PgCasts) (c : Call) (us : ℤ) (columns : StageColumns) : Prop :=
  casts.columns (stageTuple (readOf c us).1 (readOf c us).2) = .ok columns

variable {d : Deployment} {calls : Set Call} {casts : PgCasts} {s s' : PipelineState}
  {w w' : Warehouse} {c : Call} {us : ℤ}

/-- What is visible stays so. -/
theorem visible_of_step {U : Set String} (hlawful : Lawful d U) (h : RunsIn d U s)
    (hstep : StepIn d U s s') {k : Table × List PyVal} {row : Dict} (hk : visible s k = some row) :
    visible s' k = some row := by
  obtain ⟨table, hinserts, rfl⟩ := (tables_simulate hlawful).run h rfl (.single hstep)
  exact keeps_of_inserts hinserts hk

section selects

variable {city : String} {hour : ℤ} {rows : List CityHourRow}

/-- **What a SELECT returns is of calls.** -/
theorem exists_call_of_selects (hreads : ReadsEvents d calls) (h : RunsIn d (textsOf d calls) s)
    (hselects : Selects s city hour rows) {r : CityHourRow} (hr : r ∈ rows) :
    ∃ c ∈ calls, ∃ us, c.eventUs = some us ∧ c.isMalformed = false ∧ (city, r) = readOf c us := by
  obtain ⟨trip, row, hk, hrow⟩ := (hselects.mem_iff r).mp hr
  obtain ⟨c, hc, us, hus, hwell, hkey, rfl⟩ := generated_of_visible hreads h hk
  rw [hourTrip_generatedRow hwell] at hrow
  obtain rfl := Option.some.inj hrow
  obtain rfl : city = c.nextEvent.city.id := PyVal.str.inj (List.cons.inj hkey).1
  exact ⟨c, hc, us, hus, hwell, rfl⟩

/-- **It returns the event of a call** whose row is visible. -/
theorem mem_of_selects (hreads : ReadsEvents d calls) (h : RunsIn d (textsOf d calls) s)
    (hc : c ∈ calls) (hus : c.eventUs = some us)
    (hvisible : (visible s (.tripsByCityHour, generatedKey c us .tripsByCityHour)).isSome)
    (hselects : Selects s c.nextEvent.city.id (hourOf us) rows) : (readOf c us).2 ∈ rows := by
  obtain ⟨row, hk⟩ := Option.isSome_iff_exists.mp hvisible
  obtain ⟨c', hc', us', hus', hwell, hkey, rfl⟩ := generated_of_visible hreads h hk
  have htrip : c.tripId = c'.tripId :=
    PyVal.uuid.inj (List.cons.inj (List.cons.inj (List.cons.inj hkey).2).2).1
  obtain rfl := hreads.trips c hc c' hc' htrip
  obtain rfl := Option.some.inj (hus.symm.trans hus')
  exact (hselects.mem_iff _).mpr ⟨c.tripId, _, hk, hourTrip_generatedRow hwell⟩

end selects

/-! ## Attempts -/

/-- What an attempt has read so far. -/
structure Extract.Faithful (d : Deployment) (calls : Set Call) (s : PipelineState) (x : Extract) :
    Prop where
  /-- What was visible when it began still is. -/
  kept : ∀ k row, visible x.since k = some row → visible s k = some row
  drawn : ∀ r ∈ x.read, ∃ c ∈ calls, ∃ us, c.eventUs = some us ∧ c.isMalformed = false ∧
    r = readOf c us
  /-- No trip was read twice, and none will be. -/
  once : x.todo.Nodup ∧ (∀ r ∈ x.read, r.1 ∉ x.todo) ∧ (x.read.map fun r => r.2.tripId).Nodup
  /-- What was visible in its hour was read, or its city is still to be read. -/
  complete : ∀ c ∈ calls, ∀ us, c.eventUs = some us → timestampParam x.hour = hourOf us →
    (visible x.since (.tripsByCityHour, generatedKey c us .tripsByCityHour)).isSome →
      c.nextEvent.city.id ∈ x.todo ∨ readOf c us ∈ x.read

/-- The cities are distinct. -/
theorem cities_nodup : cities.Nodup := by decide

/-- The generator's cities are among those the batch layer reads. -/
theorem city_mem_cities (city : Bench.City) : city.id ∈ cities := by
  cases city <;> decide

namespace Extract.Faithful

variable {x : Extract}

/-- An attempt that has read nothing has read nothing wrong. -/
theorem begin (hour : ℤ) : (Extract.begin hour s).Faithful d calls s where
  kept := fun _ _ hk => hk
  drawn := fun _ hr => absurd hr List.not_mem_nil
  once := ⟨cities_nodup, fun _ hr => absurd hr List.not_mem_nil, List.nodup_nil⟩
  complete := fun c _ _ _ _ _ => Or.inl (city_mem_cities c.nextEvent.city)

/-- It stays so while the pipeline goes on. -/
theorem mono (h : x.Faithful d calls s)
    (hkept : ∀ k row, visible s k = some row → visible s' k = some row) :
    x.Faithful d calls s' where
  kept := fun k row hk => hkept k row (h.kept k row hk)
  drawn := h.drawn
  once := h.once
  complete := h.complete

/-- **It stays so when the next city is read**, whatever was written since the attempt began. -/
theorem reads (hreads : ReadsEvents d calls) (hs : RunsIn d (textsOf d calls) s)
    (h : x.Faithful d calls s) {city : String} {todo : List String} {rows : List CityHourRow}
    (htodo : x.todo = city :: todo) (hselects : Selects s city (timestampParam x.hour) rows) :
    (x.reads city todo rows).Faithful d calls s := by
  have hnodup := h.once.1
  rw [htodo, List.nodup_cons] at hnodup
  have hdrawn : ∀ r ∈ rows.map (city, ·), ∃ c ∈ calls, ∃ us, c.eventUs = some us ∧
      c.isMalformed = false ∧ r = readOf c us := by
    intro r hr
    obtain ⟨row, hrow, rfl⟩ := List.mem_map.mp hr
    exact exists_call_of_selects hreads hs hselects hrow
  refine ⟨h.kept, ?_, ⟨hnodup.2, ?_, ?_⟩, ?_⟩
  · intro r hr
    exact (List.mem_append.mp hr).elim (h.drawn r) (hdrawn r)
  · intro r hr
    rcases List.mem_append.mp hr with hold | hnew
    · intro hmem
      exact h.once.2.1 r hold (htodo ▸ List.mem_cons_of_mem city hmem)
    · obtain ⟨row, -, rfl⟩ := List.mem_map.mp hnew
      exact hnodup.1
  · -- a trip is of one city, and every city is read once
    show ((x.read ++ rows.map (city, ·)).map fun r => r.2.tripId).Nodup
    rw [List.map_append, List.map_map]
    refine h.once.2.2.append hselects.nodup fun trip hold hnew => ?_
    obtain ⟨r, hr, rfl⟩ := List.mem_map.mp hold
    obtain ⟨row, hrow, htrip⟩ := List.mem_map.mp hnew
    obtain ⟨c, hc, us, -, -, rfl⟩ := h.drawn r hr
    obtain ⟨c', hc', us', -, -, hcall⟩ := exists_call_of_selects hreads hs hselects hrow
    obtain ⟨rfl, rfl⟩ := Prod.mk.inj hcall
    obtain rfl := hreads.trips c' hc' c hc htrip
    exact h.once.2.1 _ hr (htodo ▸ List.mem_cons_self)
  · intro c hc us hus hhour hvisible
    change timestampParam x.hour = hourOf us at hhour
    rcases h.complete c hc us hus hhour hvisible with hmem | hread
    · rw [htodo] at hmem
      rcases List.mem_cons.mp hmem with heq | hmem
      · -- the row is still there
        obtain ⟨row, hk⟩ := Option.isSome_iff_exists.mp hvisible
        have hnow : (visible s (.tripsByCityHour, generatedKey c us .tripsByCityHour)).isSome := by
          rw [h.kept _ _ hk]
          rfl
        rw [hhour, ← heq] at hselects
        have hrow := mem_of_selects hreads hs hc hus hnow hselects
        refine Or.inr (List.mem_append_right _ (List.mem_map.mpr ⟨_, hrow, ?_⟩))
        rw [← heq]
        rfl
      · exact Or.inl hmem
    · exact Or.inr (List.mem_append_left _ hread)

end Extract.Faithful

/-! ## The stage table -/

/-- The stage table without the times of loading. -/
def staged (s : Stage) : ℕ → Option StageColumns :=
  shown (fun r : StageRow => r.tripId) StageRow.toStageColumns s.rows

/-- The rows of the events of calls. -/
def StageFacts (casts : PgCasts) (calls : Set Call) (trip : ℕ) (columns : StageColumns) : Prop :=
  ∃ c ∈ calls, ∃ us, c.eventUs = some us ∧ c.isMalformed = false ∧ c.tripId = trip ∧
    LoadedAs casts c us columns

/-- A trip has one row of facts. -/
theorem stageFacts_functional (hreads : ReadsEvents d calls) (trip : ℕ) {cols cols' : StageColumns}
    (h : StageFacts casts calls trip cols) (h' : StageFacts casts calls trip cols') :
    cols = cols' := by
  obtain ⟨c, hc, us, hus, -, rfl, hcols⟩ := h
  obtain ⟨c', hc', us', hus', -, htrip, hcols'⟩ := h'
  obtain rfl := hreads.trips c' hc' c hc htrip
  obtain rfl := Option.some.inj (hus'.symm.trans hus)
  exact Except.ok.inj (hcols.symm.trans hcols')

/-- An update with the columns that are there leaves them. -/
theorem columns_onConflict {old new : StageRow} (h : old.toStageColumns = new.toStageColumns) :
    (onConflict old new).toStageColumns = new.toStageColumns := by
  rw [toStageColumns_onConflict_iff, StageColumns.kept, StageColumns.kept, h]

section commit

variable {x : Extract} {now : ℤ} {stage stage' : Stage}

/-- The rows of a load state facts. -/
theorem facts_of_rowOf (h : x.Faithful d calls s) {new : List StageRow}
    (hnew : List.Forall₂ (RowOf casts) x.read new) :
    ∀ row ∈ new, StageFacts casts calls row.tripId row.toStageColumns := by
  intro row hrow
  obtain ⟨r, hr, hof⟩ := exists_of_mem_right hnew hrow
  obtain ⟨c, hc, us, hus, hwell, rfl⟩ := h.drawn r hr
  exact ⟨c, hc, us, hus, hwell, hof.tripId.symm, hof⟩

/-- **A load inserts into a write-once table**, although it updates three columns of fifteen. -/
theorem staged_inserts (hreads : ReadsEvents d calls) (h : x.Faithful d calls s)
    (hstage : ∀ trip cols, staged stage trip = some cols → StageFacts casts calls trip cols)
    (hcommit : executeValues casts now x.payload stage = .ok stage') :
    ReflTransGen (Insert (StageFacts casts calls)) (staged stage) (staged stage') := by
  obtain ⟨new, hnew, rfl⟩ := executeValues_rows hcommit
  exact upsertAll_inserts tripId_onConflict (fun _ _ => columns_onConflict)
    (fun trip _ _ => stageFacts_functional hreads trip) hstage (facts_of_rowOf h hnew)

/-- **What an attempt has read is loaded.** -/
theorem staged_of_read (hreads : ReadsEvents d calls) (h : x.Faithful d calls s)
    (hstage : ∀ trip cols, staged stage trip = some cols → StageFacts casts calls trip cols)
    (hcommit : executeValues casts now x.payload stage = .ok stage') (hc : c ∈ calls)
    (hus : c.eventUs = some us) (hread : readOf c us ∈ x.read) :
    ∃ cols, staged stage' c.tripId = some cols ∧ LoadedAs casts c us cols := by
  have hfacts := staged_inserts hreads h hstage hcommit
  obtain ⟨new, hnew, rfl⟩ := executeValues_rows hcommit
  obtain ⟨row, hof, hfind⟩ := find_insert (s := stage) hnew h.once.2.2 hread
  obtain ⟨cols, hcols⟩ : ∃ cols, staged (stage.insert new) c.tripId = some cols :=
    ⟨_, congrArg (Option.map StageRow.toStageColumns) hfind⟩
  refine ⟨cols, hcols, ?_⟩
  obtain ⟨c', hc', us', hus', -, htrip, hcolumns⟩ := fact_of_inserts hfacts hstage hcols
  obtain rfl := hreads.trips c' hc' c hc htrip
  obtain rfl := Option.some.inj (hus'.symm.trans hus)
  exact hcolumns

/-- Postgres accepts the events of the calls. -/
def Castable (casts : PgCasts) (calls : Set Call) : Prop :=
  ∀ c ∈ calls, ∀ us, c.eventUs = some us → c.isMalformed = false → ∃ cols, LoadedAs casts c us cols

/-- **An attempt that has read its cities can be committed.** -/
theorem exists_commit (hcasts : Castable casts calls) (h : x.Faithful d calls s) (now : ℤ)
    (stage : Stage) : ∃ stage', executeValues casts now x.payload stage = .ok stage' := by
  have htrips : (x.payload.map fun t => t.tripId).Nodup := by
    rw [Extract.payload, List.map_map]
    exact h.once.2.2
  refine exists_foldlM_eq_ok stage fun page hpage stage => ?_
  have hsub : page.Sublist x.payload := by
    have := List.sublist_flatten_of_mem hpage
    rwa [flatten_batched] at this
  obtain ⟨columns, hcolumns⟩ : ∃ columns, page.mapM casts.columns = .ok columns := by
    refine exists_mapM_eq_ok fun t ht => ?_
    obtain ⟨r, hr, rfl⟩ := List.mem_map.mp (hsub.subset ht)
    obtain ⟨c, hc, us, hus, hwell, rfl⟩ := h.drawn r hr
    exact hcasts c hc us hus hwell
  have hkeys : columns.map StageColumns.tripId = page.map fun t => t.tripId := by
    have hall := mapM_eq_ok_iff.mp hcolumns
    clear hcolumns hsub hpage
    induction hall with
    | nil => rfl
    | cons ht _ ih => rw [List.map_cons, List.map_cons, ih, columns_tripId ht]
  refine ⟨_, bind_eq_ok_iff.mpr ⟨columns, hcolumns, if_pos ?_⟩⟩
  rw [hkeys]
  exact htrips.sublist (hsub.map _)

end commit

/-! ## Every run -/

/-- The invariant of the pipeline and the batch layer. -/
structure InOrder (d : Deployment) (calls : Set Call) (casts : PgCasts) (w : Warehouse) : Prop where
  pipeline : RunsIn d (textsOf d calls) w.pipeline
  extracts : ∀ i x, w.extracts i = some x → x.Faithful d calls w.pipeline
  stage : ∀ trip cols, staged w.stage trip = some cols → StageFacts casts calls trip cols
  loaded : ∀ l ∈ w.loaded, ∀ c ∈ calls, ∀ us, c.eventUs = some us →
    timestampParam l.1 = hourOf us →
    (visible l.2 (.tripsByCityHour, generatedKey c us .tripsByCityHour)).isSome →
      ∃ cols, staged w.stage c.tripId = some cols ∧ LoadedAs casts c us cols

/-- At the beginning everything is in order. -/
theorem InOrder.init : InOrder d calls casts .init where
  pipeline := .of_start rfl
  extracts := fun i x hx => by cases hx
  stage := fun trip cols hcols => by cases hcols
  loaded := fun l hl => absurd hl List.not_mem_nil

/-- An attempt begins, goes on or ends. -/
theorem InOrder.withExtract (h : InOrder d calls casts w) (i : ℕ) {o : Option Extract}
    (ho : ∀ x, o = some x → x.Faithful d calls w.pipeline) :
    InOrder d calls casts (w.withExtract i o) where
  pipeline := h.pipeline
  extracts := by
    intro j x hx
    change Function.update w.extracts i o j = some x at hx
    by_cases hj : j = i
    · subst hj
      rw [Function.update_self] at hx
      exact ho x hx
    · rw [Function.update_of_ne hj] at hx
      exact h.extracts j x hx
  stage := h.stage
  loaded := h.loaded

/-- A load is committed. -/
theorem InOrder.load (hreads : ReadsEvents d calls) (h : InOrder d calls casts w) {x : Extract}
    (hx : x.Faithful d calls w.pipeline) (htodo : x.todo = []) {now : ℤ} {stage : Stage}
    (hcommit : executeValues casts now x.payload w.stage = .ok stage) :
    InOrder d calls casts (w.load stage x) where
  pipeline := h.pipeline
  extracts := h.extracts
  stage := fun _ _ hcols => fact_of_inserts (staged_inserts hreads hx h.stage hcommit) h.stage hcols
  loaded := by
    intro l hl c hc us hus hhour hvisible
    rcases List.mem_cons.mp hl with rfl | hl
    · rcases hx.complete c hc us hus hhour hvisible with hmem | hread
      · rw [htodo] at hmem
        cases hmem
      · exact staged_of_read hreads hx h.stage hcommit hc hus hread
    · obtain ⟨cols, hcols, hloaded⟩ := h.loaded l hl c hc us hus hhour hvisible
      exact ⟨cols, keeps_of_inserts (staged_inserts hreads hx h.stage hcommit) hcols, hloaded⟩

/-- **No step breaks the invariant, and the stage table stays a write-once table.** -/
theorem inOrder_step (hreads : ReadsEvents d calls) (h : InOrder d calls casts w)
    (hstep : LoadStep d (textsOf d calls) casts w w') : InOrder d calls casts w' ∧
      ReflTransGen (Insert (StageFacts casts calls)) (staged w.stage) (staged w'.stage) := by
  cases hstep with
  | pipeline hpipeline =>
      refine ⟨⟨h.pipeline.tail hpipeline, fun i x hx => ?_, h.stage, h.loaded⟩, .refl⟩
      exact (h.extracts i x hx).mono fun k row hk =>
        visible_of_step (lawful_generated hreads) h.pipeline hpipeline hk
  | begin i hour =>
      refine ⟨h.withExtract i fun x hx => ?_, .refl⟩
      obtain rfl := Option.some.inj hx
      exact Extract.Faithful.begin hour
  | @select i x city todo rows hx htodo hselects =>
      refine ⟨h.withExtract i fun y hy => ?_, .refl⟩
      obtain rfl := Option.some.inj hy
      exact (h.extracts i x hx).reads hreads h.pipeline htodo hselects
  | @commit i x now stage hx htodo hcommit =>
      have hfaithful := h.extracts i x hx
      refine ⟨?_, staged_inserts hreads hfaithful h.stage hcommit⟩
      exact (h.load hreads hfaithful htodo hcommit).withExtract i fun y hy => by cases hy
  | fail i => exact ⟨h.withExtract i (fun x hx => by cases hx), .refl⟩

/-- The invariant holds throughout every run. -/
theorem loads_inOrder (hreads : ReadsEvents d calls) (h : Loads d (textsOf d calls) casts w) :
    InOrder d calls casts w := by
  refine h.invariant ?_ fun w w' _ hw hstep => (inOrder_step hreads hw hstep).1
  rintro w rfl
  exact InOrder.init

/-- **The stage table follows a write-once table.** -/
theorem stage_simulates (hreads : ReadsEvents d calls) :
    Simulation (· = .init) (LoadStep d (textsOf d calls) casts) (· = fun _ => none)
      (Insert (StageFacts casts calls)) fun w table => table = staged w.stage where
  starts := by
    rintro w rfl
    exact ⟨staged Warehouse.init.stage, rfl, rfl⟩
  follows := by
    rintro w w' table hw rfl hstep
    exact ⟨_, (inOrder_step hreads (loads_inOrder hreads hw) hstep).2, rfl⟩

/-! ## The two tasks -/

section tasks

variable {U : Set String} {cass : TripsByCityHour} {hour : ℤ} {stage : Stage}

/-- The partitions of `trips_by_city_hour`. -/
def Lists (s : PipelineState) (cass : TripsByCityHour) : Prop :=
  ∀ city hour, Selects s city hour (cass city hour)

/-- The rows of an hour as a task reads them, which binds it in whole milliseconds. -/
def boundTo (cass : TripsByCityHour) : TripsByCityHour :=
  fun city hour => cass city (timestampParam hour)

/-- The cities are read one after the other. -/
theorem steps_of_selects (hlists : Lists w.pipeline cass) (i : ℕ) (x : Extract) :
    ReflTransGen (LoadStep d U casts) (w.withExtract i (some x))
      (w.withExtract i (some { x with
        todo := []
        read := x.read ++
          x.todo.flatMap fun city => (boundTo cass city x.hour).map (city, ·) })) := by
  obtain ⟨hour, todo, read, since⟩ := x
  induction todo generalizing read with
  | nil => rw [List.flatMap_nil, List.append_nil]
  | cons city todo ih =>
      have hstep : LoadStep d U casts _ _ := .select
        (w.withExtract i (some ⟨hour, city :: todo, read, since⟩)) (w.extracts_withExtract i _) rfl
        (hlists city (timestampParam hour))
      rw [Warehouse.withExtract_withExtract] at hstep
      have hrest := ih (read ++ (boundTo cass city hour).map (city, ·))
      rw [List.append_assoc] at hrest
      exact .head hstep hrest

/-- **The load of an hour.** -/
theorem steps_of_hour (hlists : Lists w.pipeline cass) {now : ℤ} (hcommit : executeValues casts now
      ((extractRows (boundTo cass) hour).map fun r => stageTuple r.1 r.2) w.stage = .ok stage) :
    ∃ w', ReflTransGen (LoadStep d U casts) w w' ∧ w'.pipeline = w.pipeline ∧ w'.stage = stage ∧
      w'.loaded = (hour, w.pipeline) :: w.loaded := by
  have hbegin : LoadStep d U casts _ _ := .begin w 0 hour
  have hreads : ReflTransGen (LoadStep d U casts) _ _ :=
    steps_of_selects hlists 0 (.begin hour w.pipeline)
  have hdone : LoadStep d U casts _ _ := .commit
    (w.withExtract 0 (some ⟨hour, [], extractRows (boundTo cass) hour, w.pipeline⟩))
    (w.extracts_withExtract 0 _) rfl hcommit
  exact ⟨_, (ReflTransGen.head hbegin hreads).tail hdone, rfl, rfl, rfl⟩

/-- Loading an hour inserts the tuples of the rows it was given. -/
theorem executeValues_of_loadHour {now : ℤ} {rows : List (String × CityHourRow)} {s s' : Stage}
    {res : LoadResult} (h : loadHour casts now hour rows s = .ok (res, s')) :
    executeValues casts now (rows.map fun r => stageTuple r.1 r.2) s = .ok s' := by
  unfold loadHour at h
  split_ifs at h with hempty
  · obtain ⟨-, rfl⟩ := Prod.mk.inj (Except.ok.inj h)
    rw [List.isEmpty_iff.mp hempty]
    rfl
  · obtain ⟨t, ht, h⟩ := bind_eq_ok_iff.mp h
    obtain ⟨-, rfl⟩ := Prod.mk.inj (Except.ok.inj h)
    exact ht

/-- Reprocessing an hour inserts the tuples of the rows it reads. -/
theorem executeValues_of_reprocessHour {now : ℤ → ℤ} {p q : Progress}
    (h : reprocessHour casts now cass p hour = .ok q) : executeValues casts (now hour)
      ((extractRows cass hour).map fun r => stageTuple r.1 r.2) p.stage = .ok q.stage := by
  unfold reprocessHour at h
  dsimp only at h
  split_ifs at h with hempty
  · obtain rfl := Except.ok.inj h
    rw [List.isEmpty_iff.mp hempty]
    rfl
  · obtain ⟨t, ht, h⟩ := bind_eq_ok_iff.mp h
    obtain rfl := Except.ok.inj h
    exact ht

/-- The hours of a backfill. -/
theorem steps_of_hours {now : ℤ → ℤ} {hours : List ℤ} {p p' : Progress}
    (hlists : Lists w.pipeline cass) (hstage : p.stage = w.stage)
    (h : reprocessHours casts now (boundTo cass) hours p = (p', .ok ())) :
    ∃ w', ReflTransGen (LoadStep d U casts) w w' ∧ w'.pipeline = w.pipeline ∧
      w'.stage = p'.stage := by
  induction hours generalizing w p with
  | nil =>
      obtain ⟨rfl, -⟩ := Prod.mk.inj h
      exact ⟨w, .refl, rfl, hstage.symm⟩
  | cons hour hours ih =>
      rw [reprocessHours] at h
      split at h
      · rename_i q hq
        have hcommit := executeValues_of_reprocessHour hq
        rw [hstage] at hcommit
        obtain ⟨v, hv, hpipeline, hvstage, -⟩ := steps_of_hour (d := d) (U := U) hlists hcommit
        rw [← hpipeline] at hlists
        obtain ⟨w', hw', hpipeline', hstage'⟩ := ih hlists hvstage.symm h
        exact ⟨w', hv.trans hw', hpipeline'.trans hpipeline, hstage'⟩
      · cases h

/-- **Both tasks are such steps**, on a table that stands still. -/
theorem steps_of_task (hlists : Lists w.pipeline cass) {now : ℤ → ℤ} {task : LoadTask}
    (hrun : task.run casts now (boundTo cass) w.stage = .ok stage) :
    ∃ w', ReflTransGen (LoadStep d U casts) w w' ∧ w'.pipeline = w.pipeline ∧ w'.stage = stage := by
  cases task with
  | extractAndLoadHour hour =>
      rw [LoadTask.run] at hrun
      rcases hload : extractAndLoadHour casts (now hour) (boundTo cass) hour w.stage with
        e | ⟨res, t⟩
      · rw [hload] at hrun
        cases hrun
      · rw [hload] at hrun
        obtain rfl : t = stage := Except.ok.inj hrun
        obtain ⟨w', hsteps, hpipeline, hstage, -⟩ :=
          steps_of_hour hlists (executeValues_of_loadHour hload)
        exact ⟨w', hsteps, hpipeline, hstage⟩
  | reprocessWindow start stop =>
      rw [LoadTask.run] at hrun
      split at hrun
      · rename_i p hp
        obtain rfl := Except.ok.inj hrun
        exact steps_of_hours hlists rfl hp
      · cases hrun

end tasks

/-! ## The result -/

/-- A row of the stage table, by its trip. -/
theorem staged_iff {stage : Stage} {trip : ℕ} {cols : StageColumns} :
    staged stage trip = some cols ↔
      ∃ row ∈ stage.rows, row.tripId = trip ∧ row.toStageColumns = cols := by
  unfold staged shown
  rw [Option.map_eq_some_iff]
  constructor
  · rintro ⟨row, hrow, rfl⟩
    have htrip := key_of_lookupKey hrow
    exact ⟨row, mem_of_lookupKey hrow, htrip, rfl⟩
  · rintro ⟨row, hrow, rfl, rfl⟩
    have hlookup := lookupKey_of_mem stage.nodup hrow
    exact ⟨row, hlookup, rfl⟩

/-- **From the generator to the warehouse**, in every state that any order of steps leads to: a row
of the stage table is that of a call, with every column; it stays so; a load has left what was
visible in its hour when it began; and no load is refused. -/
theorem generated_reach_warehouse (hreads : ReadsEvents d calls) (hcasts : Castable casts calls)
    (h : Loads d (textsOf d calls) casts w) :
    (∀ row ∈ w.stage.rows, ∃ c ∈ calls, ∃ us, c.eventUs = some us ∧ c.isMalformed = false ∧
        LoadedAs casts c us row.toStageColumns) ∧
      (∀ w', ReflTransGen (LoadStep d (textsOf d calls) casts) w w' → ∀ row ∈ w.stage.rows,
        ∃ row' ∈ w'.stage.rows, row'.toStageColumns = row.toStageColumns) ∧
      (∀ l ∈ w.loaded, ∀ c ∈ calls, ∀ us, c.eventUs = some us →
        timestampParam l.1 = hourOf us →
        (visible l.2 (.tripsByCityHour, generatedKey c us .tripsByCityHour)).isSome →
          ∃ row ∈ w.stage.rows, LoadedAs casts c us row.toStageColumns) ∧
      ∀ i x now, w.extracts i = some x → ∃ stage, executeValues casts now x.payload w.stage =
        .ok stage := by
  have horder := loads_inOrder hreads h
  have hrow : ∀ {row}, row ∈ w.stage.rows → staged w.stage row.tripId = some row.toStageColumns :=
    fun hrow => staged_iff.mpr ⟨_, hrow, rfl, rfl⟩
  refine ⟨fun row hmem => ?_, fun w' hrun row hmem => ?_, fun l hl c hc us hus hhour hvisible => ?_,
    fun i x now hx => exists_commit hcasts (horder.extracts i x hx) now w.stage⟩
  · obtain ⟨c, hc, us, hus, hwell, -, hloaded⟩ := horder.stage _ _ (hrow hmem)
    exact ⟨c, hc, us, hus, hwell, hloaded⟩
  · obtain ⟨table, hinserts, rfl⟩ := (stage_simulates hreads).run h rfl hrun
    obtain ⟨row', hmem', -, hcols⟩ := staged_iff.mp (keeps_of_inserts hinserts (hrow hmem))
    exact ⟨row', hmem', hcols⟩
  · obtain ⟨cols, hcols, hloaded⟩ := horder.loaded l hl c hc us hus hhour hvisible
    obtain ⟨row, hmem, -, rfl⟩ := staged_iff.mp hcols
    exact ⟨row, hmem, hloaded⟩

/-! ## A run -/

/-- No execution fails. -/
def steadySink : SinkEnv := { flakyEnv with outcome := fun _ _ _ => .ok () }

/-- A batch without trouble. -/
def steadyEnv : BatchEnv :=
  { quietEnv with
    collectStats := fun _ => ⟨false, [], steadySink⟩
    countDlq := fun _ => ⟨false, [], steadySink⟩
    saveDlq := fun _ => ⟨false, [], steadySink⟩ }

/-- A sink that never fails is healthy. -/
theorem healthy_steadySink : steadySink.Healthy := fun _ _ _ => rfl

/-- A batch without a failure is healthy. -/
theorem healthy_steadyEnv : steadyEnv.Forall SinkEnv.Healthy := by
  have haccess : ∀ p : ℕ, Access.Forall SinkEnv.Healthy ⟨false, [], steadySink⟩ := fun _ =>
    ⟨healthy_steadySink, fun env henv => absurd henv List.not_mem_nil⟩
  exact ⟨haccess, haccess, haccess⟩

/-- The text of the event is sound. -/
theorem sound_generatedText : Sound generatedDeployment generatedText :=
  sound_generated readsEvents_sample rfl eventUs_sampleCall
    (decide_eq_false fun h => absurd h.1 (lt_irrefl 0))

/-- It is a text of the run. -/
theorem generatedText_mem : generatedText ∈ textsOf generatedDeployment {sampleCall} :=
  ⟨sampleCall, rfl, _, eventUs_sampleCall, rfl⟩

/-- Its row can be built. -/
theorem buildable_generatedMessage :
    Buildable (source generatedDeployment.spark generatedMessage).asDict :=
  sound_generatedText.buildable (lawful_generated readsEvents_sample) generatedText_mem
    (m := generatedMessage) rfl

/-- The copies of the message a batch takes. -/
def copiesBatch (n : ℕ) : Frame :=
  [(List.replicate (n + 1) generatedMessage).map (source generatedDeployment.spark)]

/-- Each of its rows is that of the message. -/
theorem eq_of_mem_copiesBatch {n : ℕ} {r : StreamRow} (hr : r ∈ (copiesBatch n).rows) :
    r = source generatedDeployment.spark generatedMessage := by
  rw [copiesBatch, Frame.rows, List.flatten_singleton] at hr
  obtain ⟨m, hm, rfl⟩ := List.mem_map.mp hr
  rw [List.eq_of_mem_replicate hm]

/-- A batch takes the event of the call, as often as it is there. -/
theorem exists_batch_generated (n : ℕ) : ∃ out, processBatch generatedDeployment.conf steadyEnv none
    (copiesBatch n) = .ok out := by
  obtain ⟨ev, hev, htime⟩ := parsed_generated readsEvents_sample rfl eventUs_sampleCall
  have hevent := source_event (m := generatedMessage) rfl hev htime
  have hlisted : steadySink.Listed := healthy_steadySink.listed
  refine exists_processBatch rfl ?_ (fun _ => hlisted) (fun _ => hlisted) fun _ => hlisted
  intro r hr
  obtain rfl := eq_of_mem_copiesBatch (where3_subset hr)
  unfold toPython
  rw [hevent]
  rfl

/-- It leaves no record on the DLQ topic. -/
theorem dlq_of_batch_generated {n : ℕ} {out : BatchRun} (hout : processBatch
    generatedDeployment.conf steadyEnv none (copiesBatch n) = .ok out) : out.dlq = [] := by
  have hparse := (parseable_of_buildable buildable_generatedMessage).1
  have hbad : Frame.rows ((copiesBatch n).where3 isUnparseable) = [] :=
    List.eq_nil_iff_forall_not_mem.mpr fun r hr => by
      obtain ⟨hmem, hunparseable⟩ := mem_unparseable.mp hr
      rw [eq_of_mem_copiesBatch hmem, hparse] at hunparseable
      cases hunparseable
  have hcount : (copiesBatch n).count ≠ 0 := Nat.ne_of_gt (List.length_pos_iff.mpr (by
    simp [copiesBatch, Frame.rows]))
  have hrouted := (processBatch_completed hout hcount).routed
  rw [processBatch_healthy_dlq hout healthy_steadyEnv, ← Except.ok.inj hrouted]
  · simp only [Routes.messages, hbad, List.map_nil]
    rfl
  · rw [← Except.ok.inj hrouted]
    intro r hr
    obtain rfl := eq_of_mem_copiesBatch (where3_subset hr)
    exact not_refused_of_buildable buildable_generatedMessage

/-- A batch without trouble takes what is not committed, and its event gets its rows. -/
theorem exists_run_batch {n : ℕ}
    (h : RunsIn generatedDeployment (textsOf generatedDeployment {sampleCall}) s)
    (hmark : s.mark = none) (hpending : s.pending = List.replicate (n + 1) generatedMessage) :
    ∃ s', RunsIn generatedDeployment (textsOf generatedDeployment {sampleCall}) s' ∧
      Step generatedDeployment s s' ∧ s'.raw = s.raw ∧ s'.pending = [] ∧ s'.dlq = s.dlq ∧
      ∀ t, visible s' (t, generatedKey sampleCall 1700000000000000 t) =
        some (generatedRow sampleCall 1700000000000000 t) := by
  obtain ⟨out, hout⟩ := exists_batch_generated n
  have hlawful := lawful_generated readsEvents_sample
  have hdlq := dlq_of_batch_generated hout
  have hrows : (copiesBatch n).rows.Perm
      ((List.replicate (n + 1) generatedMessage).map (source generatedDeployment.spark)) :=
    .of_eq List.flatten_singleton
  have hperm : s.pending.Perm (List.replicate (n + 1) generatedMessage ++ []) := by
    rw [hpending, List.append_nil]
  have hstep := Step.of_batch (d := generatedDeployment) hperm hrows (hmark ▸ hout)
  have hreach := runsIn_of_runs (U := textsOf generatedDeployment {sampleCall})
    (h.runs.1.tail hstep) h.runs.2
  have hwritten := written_of_healthy_batch hlawful hrows healthy_steadyEnv hout
    (List.mem_replicate.mpr ⟨n.succ_ne_zero, rfl⟩) rfl generatedText_mem sound_generatedText
  refine ⟨_, hreach, hstep, rfl, rfl, ?_, fun t => ?_⟩
  · rw [hdlq]
    exact funext fun p => List.append_nil _
  · obtain ⟨hkey, hrow⟩ := factRow_generated readsEvents_sample rfl eventUs_sampleCall t
    rw [← hkey, ← hrow]
    obtain ⟨at', stmts, hstmts, hall⟩ := hwritten
    exact visible_of_written hlawful hreach rfl generatedText_mem
      ⟨at', stmts, hstmts, fun st hst => List.mem_append_right _ (hall st hst)⟩ t

/-- It is published, and a batch writes it. -/
theorem exists_run_generated : ∃ s,
    RunsIn generatedDeployment (textsOf generatedDeployment {sampleCall}) s ∧
      ∀ t, visible s (t, generatedKey sampleCall 1700000000000000 t) =
        some (generatedRow sampleCall 1700000000000000 t) := by
  obtain ⟨s, hs, -, -, -, -, hvisible⟩ := exists_run_batch (n := 0) runsIn_published rfl rfl
  exact ⟨s, hs, hvisible⟩

/-- The pipeline runs before the first task begins. -/
theorem loads_of_runsIn {U : Set String} (h : RunsIn d U s) :
    Loads d U casts (.idle s) := by
  obtain ⟨s₀, rfl, hrun⟩ := h
  refine ⟨.init, rfl, hrun.lift Warehouse.idle fun s s' hstep => ?_⟩
  exact LoadStep.pipeline (.idle s) hstep

/-- The partition of the event of the call. -/
def sampleHours : TripsByCityHour := fun city hour =>
  if city = sampleCall.nextEvent.city.id ∧ hour = hourOf 1700000000000000 then
    [(readOf sampleCall 1700000000000000).2]
  else []

/-- `sampleHours` is `trips_by_city_hour` once the row of the sample is visible. -/
theorem lists_sampleHours
    (h : RunsIn generatedDeployment (textsOf generatedDeployment {sampleCall}) s)
    (hvisible : visible s (.tripsByCityHour, generatedKey sampleCall 1700000000000000
      .tripsByCityHour) = some (generatedRow sampleCall 1700000000000000 .tripsByCityHour)) :
    Lists s sampleHours := by
  have hwell : sampleCall.isMalformed = false :=
    decide_eq_false fun h => absurd h.1 (lt_irrefl 0)
  intro city hour
  constructor
  · unfold sampleHours
    split_ifs
    · exact List.nodup_singleton _
    · exact List.nodup_nil
  · intro r
    unfold sampleHours
    constructor
    · intro hr
      split_ifs at hr with hpartition
      · obtain ⟨rfl, rfl⟩ := hpartition
        obtain rfl := List.mem_singleton.mp hr
        exact ⟨sampleCall.tripId, _, hvisible, hourTrip_generatedRow hwell⟩
      · cases hr
    · rintro ⟨trip, row, hk, hrow⟩
      obtain ⟨c, rfl, us, hus, -, hkey, rfl⟩ := generated_of_visible readsEvents_sample h hk
      obtain rfl := Option.some.inj (hus.symm.trans eventUs_sampleCall)
      have hcity := PyVal.str.inj (List.cons.inj hkey).1
      have hhour := PyVal.datetime.inj (List.cons.inj (List.cons.inj hkey).2).1
      rw [if_pos ⟨hcity, congrArg Datetime.wall hhour⟩]
      rw [hourTrip_generatedRow hwell] at hrow
      exact List.mem_singleton.mpr (Option.some.inj hrow).symm

/-- Casts that leave every value as it is cast the columns of any call. -/
theorem castable_plainCasts (calls : Set Call) : Castable plainCasts calls :=
  fun _ _ _ _ _ => ⟨_, rfl⟩

/-- The general result at one call whose hour was loaded. -/
theorem generated_reach_warehouse_sample : ∃ w : Warehouse, w.loaded ≠ [] ∧
    (∀ row ∈ w.stage.rows, ∃ c ∈ ({sampleCall} : Set Call), ∃ us, c.eventUs = some us ∧
        c.isMalformed = false ∧ LoadedAs plainCasts c us row.toStageColumns) ∧
      (∀ w', ReflTransGen (LoadStep generatedDeployment
          (textsOf generatedDeployment {sampleCall}) plainCasts) w w' → ∀ row ∈ w.stage.rows,
        ∃ row' ∈ w'.stage.rows, row'.toStageColumns = row.toStageColumns) ∧
      (∀ l ∈ w.loaded, ∀ c ∈ ({sampleCall} : Set Call), ∀ us, c.eventUs = some us →
        timestampParam l.1 = hourOf us →
        (visible l.2 (.tripsByCityHour, generatedKey c us .tripsByCityHour)).isSome →
          ∃ row ∈ w.stage.rows, LoadedAs plainCasts c us row.toStageColumns) ∧
      ∀ i x now, w.extracts i = some x → ∃ stage,
        executeValues plainCasts now x.payload w.stage = .ok stage := by
  obtain ⟨s, hs, hvisible⟩ := exists_run_generated
  have hstart : Loads generatedDeployment (textsOf generatedDeployment {sampleCall}) plainCasts
      (.idle s) := loads_of_runsIn hs
  have hbegin := hstart.tail (.begin _ 0 (hourOf 1700000000000000))
  have hread := hbegin.trans (steps_of_selects (lists_sampleHours hs (hvisible _)) 0 _)
  have hextract := Warehouse.extracts_withExtract (.idle s) 0
  obtain ⟨stage, hstage⟩ := exists_commit (castable_plainCasts {sampleCall})
    ((loads_inOrder readsEvents_sample hread).extracts 0 _ (hextract _)) 0 (Warehouse.idle s).stage
  have hdone := hread.tail (.commit _ (hextract _) rfl hstage)
  exact ⟨_, List.cons_ne_nil _ _,
    generated_reach_warehouse readsEvents_sample (castable_plainCasts _) hdone⟩

end TripPipeline.Flow
