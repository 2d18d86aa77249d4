import TripPipeline.Rollup.Stage
import TripPipeline.Serving.Tables

/-!
# What the sink accepts and the rollup does not

`_validate` asks for seven fields. `trips_rollup_stage` is NOT NULL throughout, and the extract
reads the partitions of the cities in `CITIES`. The extract fills in the four numbers it may find
null; it fills in nothing for the other columns.

* `stores_of_built`: the row of `trips_by_city_hour` that an accepted event is written to.
* `rollsUp_iff`: the rollup of its hour reads the row, and can insert it, iff the event is of a city
  of the list and has the six fields that nobody asked for.
-/

namespace TripPipeline.Rollup

open TripPipeline.Common TripPipeline.Lib
open TripPipeline.Streaming TripPipeline.Serving

/-! ## The row of a statement -/

/-- A value bound to a `text` column. -/
def textColumn : PyVal → Option String
  | .str s => some s
  | _ => none

/-- A value bound to an `int` column. -/
def intColumn : PyVal → Option ℤ
  | .int n => some n
  | _ => none

/-- A value bound to a `double` column. -/
def doubleColumn : PyVal → Option ℚ
  | .float x => some x
  | _ => none

/-- A value bound to a `uuid` column. -/
def uuidColumn : PyVal → Option ℕ
  | .uuid n => some n
  | _ => none

/-- A value bound to a `timestamp` column, as an instant. -/
def timestampColumn : PyVal → Option ℤ
  | .datetime d => some d.instant
  | _ => none

/-- The partition a stored row stands in, and what the SELECT of the extract returns for it. -/
def cityHourRow (stored : Dict) : Option (String × ℤ × CityHourRow) := do
  let city ← textColumn (Dict.get stored "city_id")
  let hour ← timestampColumn (Dict.get stored "event_hour")
  let trip ← uuidColumn (Dict.get stored "trip_id")
  some (city, hour,
    { tripId := trip
      eventId := uuidColumn (Dict.get stored "event_id")
      eventTime := timestampColumn (Dict.get stored "event_time")
      driverId := textColumn (Dict.get stored "driver_id")
      riderId := textColumn (Dict.get stored "rider_id")
      pickupZoneId := intColumn (Dict.get stored "pickup_zone_id")
      dropoffZoneId := intColumn (Dict.get stored "dropoff_zone_id")
      vehicleClass := textColumn (Dict.get stored "vehicle_class")
      paymentType := textColumn (Dict.get stored "payment_type")
      distanceKm := doubleColumn (Dict.get stored "distance_km")
      durationSec := intColumn (Dict.get stored "duration_sec")
      fareAmount := doubleColumn (Dict.get stored "fare_amount")
      surgeMultiplier := doubleColumn (Dict.get stored "surge_multiplier")
      status := textColumn (Dict.get stored "status") })

/-- An optional text fills its column. -/
@[simp] theorem textColumn_ofOption (o : Option String) : textColumn (.ofOption .str o) = o := by
  cases o <;> rfl

/-- An optional integer fills its column. -/
@[simp] theorem intColumn_ofOption (o : Option ℤ) : intColumn (.ofOption .int o) = o := by
  cases o <;> rfl

/-- An optional number fills its column. -/
@[simp] theorem doubleColumn_ofOption (o : Option ℚ) : doubleColumn (.ofOption .float o) = o := by
  cases o <;> rfl

/-- An optional UUID fills its column. -/
@[simp] theorem uuidColumn_ofOption (o : Option ℕ) : uuidColumn (.ofOption .uuid o) = o := by
  cases o <;> rfl

/-- The row the statements of an event write to `trips_by_city_hour`. -/
def Stores (stmts : List Statement) (city : String) (hour : ℤ) (row : CityHourRow) : Prop :=
  ∃ st ∈ stmts, st.key = .tripsByCityHour ∧ cityHourRow (storedRow st) = some (city, hour, row)

section built

variable {r : StreamRow} {ingestedAtMs : ℤ} {stmts : List Statement}

/-- A text field that is not missing. -/
theorem isSome_of_isMissing_eq_false {o : Option String}
    (h : (PyVal.ofOption .str o).isMissing = false) : o.isSome := by
  cases o with
  | none => cases h
  | some s => rfl

/-- What the statement of an accepted event stores. -/
theorem cityHourRow_of_builds {st : Statement} {city : String} {trip : ℕ} {us : ℤ}
    (hacc : Accepted r.asDict) (hst : Builds r.asDict st) (hkey : st.key = .tripsByCityHour)
    (hcity : r.event.cityId = some city) (htrip : tripOf r.asDict = some trip)
    (hus : utcMicros r.asDict = some us) :
    cityHourRow (storedRow st) = some (city, us - us % Datetime.hourUs,
      ⟨trip, uuidField r.asDict "event_id", some us, r.event.driverId, r.event.riderId,
        r.event.pickupZoneId, r.event.dropoffZoneId, r.event.vehicleClass, r.event.paymentType,
        r.event.distanceKm, r.event.durationSec, r.event.fareAmount, r.event.surgeMultiplier,
        r.event.status⟩) := by
  obtain ⟨now, hstored⟩ := hst.storedRow_eq hacc
  rw [hkey] at hstored
  have htripId : Dict.get (storedRow st) "trip_id" = .ofOption .uuid (some trip) := by
    rw [← htrip, hstored]
    rfl
  have hhour : Dict.get (storedRow st) "event_hour" =
      .datetime ⟨us - us % Datetime.hourUs, some 0⟩ := by
    have h : Dict.get (storedRow st) "event_hour" = .ofOption
        (fun us => .datetime ⟨us - us % Datetime.hourUs, some 0⟩) (utcMicros r.asDict) := by
      rw [hstored]
      rfl
    rw [h, hus]
    rfl
  have htime : Dict.get (storedRow st) "event_time" = .datetime ⟨us, some 0⟩ := by
    have h : Dict.get (storedRow st) "event_time" =
        .ofOption (fun us => .datetime ⟨us, some 0⟩) (utcMicros r.asDict) := by
      rw [hstored]
      rfl
    rw [h, hus]
    rfl
  have hcityId : Dict.get (storedRow st) "city_id" = .ofOption .str (some city) := by
    rw [← hcity, hstored]
    rfl
  -- the other columns are the fields of the event as they stand
  have hrest : cityHourRow (storedRow st) = (do
      let city ← textColumn (Dict.get (storedRow st) "city_id")
      let hour ← timestampColumn (Dict.get (storedRow st) "event_hour")
      let trip ← uuidColumn (Dict.get (storedRow st) "trip_id")
      some (city, hour, ⟨trip, uuidColumn (.ofOption .uuid (uuidField r.asDict "event_id")),
        timestampColumn (Dict.get (storedRow st) "event_time"),
        textColumn (.ofOption .str r.event.driverId), textColumn (.ofOption .str r.event.riderId),
        intColumn (.ofOption .int r.event.pickupZoneId),
        intColumn (.ofOption .int r.event.dropoffZoneId),
        textColumn (.ofOption .str r.event.vehicleClass),
        textColumn (.ofOption .str r.event.paymentType),
        doubleColumn (.ofOption .float r.event.distanceKm),
        intColumn (.ofOption .int r.event.durationSec),
        doubleColumn (.ofOption .float r.event.fareAmount),
        doubleColumn (.ofOption .float r.event.surgeMultiplier),
        textColumn (.ofOption .str r.event.status)⟩)) := by
    rw [hstored]
    rfl
  rw [hrest, hcityId, hhour, htripId, htime]
  simp only [textColumn_ofOption, intColumn_ofOption, doubleColumn_ofOption, uuidColumn_ofOption]
  simp [timestampColumn, Datetime.instant]

/-- **The row of an accepted event**: the fields of the event, nulls included. -/
theorem stores_of_built (h : buildStatements r.asDict allTables ingestedAtMs = .ok stmts) :
    ∃ city trip us, r.event.cityId = some city ∧ r.event.eventTime = some us ∧
      r.event.driverId.isSome ∧
      ∀ c t row, Stores stmts c t row ↔ c = city ∧ t = us - us % Datetime.hourUs ∧
        row = ⟨trip, uuidField r.asDict "event_id", some us, r.event.driverId, r.event.riderId,
          r.event.pickupZoneId, r.event.dropoffZoneId, r.event.vehicleClass, r.event.paymentType,
          r.event.distanceKm, r.event.durationSec, r.event.fareAmount, r.event.surgeMultiplier,
          r.event.status⟩ := by
  have hbuild := (buildStatements_allTables_iff _ _).mp ⟨stmts, h⟩
  have hacc := accepted_asDict hbuild
  obtain ⟨city, hcity⟩ := Option.isSome_iff_exists.mp
    (isSome_of_isMissing_eq_false (o := r.event.cityId)
      (hbuild.valid.required "city_id" (by simp [requiredFields])))
  have hdriver := isSome_of_isMissing_eq_false (o := r.event.driverId)
    (hbuild.valid.required "driver_id" (by simp [requiredFields]))
  obtain ⟨trip, htrip⟩ := hacc.exists_tripOf
  obtain ⟨us, hus⟩ := Option.isSome_iff_exists.mp hacc.naive
  have htime : r.event.eventTime = some us := by
    have hlookup : r.asDict.lookup "event_time" =
      some (.ofOption (fun us => .datetime (StreamRow.naiveUtc us)) r.event.eventTime) := rfl
    rw [utcMicros, hlookup] at hus
    rcases ht : r.event.eventTime with _ | t
    · rw [ht] at hus
      cases hus
    · rw [ht] at hus
      exact hus
  obtain ⟨s, hs, hkey, hfilter⟩ := exists_filter_key h .tripsByCityHour
  have hrow := cityHourRow_of_builds hacc ⟨ingestedAtMs, stmts, h, hs⟩ hkey hcity htrip hus
  refine ⟨city, trip, us, hcity, htime, hdriver, fun c t row => ?_⟩
  constructor
  · rintro ⟨st, hst, hkey', hstored⟩
    have hmem : st ∈ stmts.filter (·.key = .tripsByCityHour) :=
      List.mem_filter.mpr ⟨hst, decide_eq_true hkey'⟩
    rw [hfilter] at hmem
    obtain rfl := List.mem_singleton.mp hmem
    rw [hrow] at hstored
    obtain ⟨rfl, hrest⟩ := Prod.mk.inj (Option.some.inj hstored)
    obtain ⟨rfl, rfl⟩ := Prod.mk.inj hrest
    exact ⟨rfl, rfl, rfl⟩
  · rintro ⟨rfl, rfl, rfl⟩
    exact ⟨s, hs, hkey, hrow⟩

/-! ## What the rollup does with it -/

/-- A tuple without a null. -/
structure NotNull (t : StageTuple) : Prop where
  eventId : t.eventId.isSome
  eventTime : t.eventTime.isSome
  driverId : t.driverId.isSome
  riderId : t.riderId.isSome
  pickupZoneId : t.pickupZoneId.isSome
  dropoffZoneId : t.dropoffZoneId.isSome
  vehicleClass : t.vehicleClass.isSome
  paymentType : t.paymentType.isSome
  status : t.status.isSome

/-- The statements write a row, and whatever else the table holds, the rollup of the hour of that
row extracts it and makes a tuple without a null of it. -/
def RollsUp (stmts : List Statement) : Prop :=
  ∃ city hour row, Stores stmts city hour row ∧ NotNull (stageTuple city row) ∧
    ∀ cass : TripsByCityHour, row ∈ cass city hour → (city, row) ∈ extractRows cass hour

/-- The extract of an hour has the rows of its partition in each city. -/
theorem mem_extractRows_iff {cass : TripsByCityHour} {hour : ℤ} {city : String}
    {row : CityHourRow} :
    (city, row) ∈ extractRows cass hour ↔ city ∈ cities ∧ row ∈ cass city hour := by
  simp [extractRows]

/-- The fields of an event that the sink lets pass as null and the stage table refuses. -/
structure Complete (e : Event ℤ) : Prop where
  riderId : e.riderId.isSome
  pickupZoneId : e.pickupZoneId.isSome
  dropoffZoneId : e.dropoffZoneId.isSome
  vehicleClass : e.vehicleClass.isSome
  paymentType : e.paymentType.isSome
  status : e.status.isSome

/-- **An accepted event is rolled up iff its city is in the list and it has the six fields that
`_validate` does not ask for.** -/
theorem rollsUp_iff (h : buildStatements r.asDict allTables ingestedAtMs = .ok stmts) :
    RollsUp stmts ↔ (∃ city ∈ cities, r.event.cityId = some city) ∧ Complete r.event := by
  obtain ⟨city, trip, us, hcity, -, hdriver, hstores⟩ := stores_of_built h
  have heventId : (uuidField r.asDict "event_id").isSome := by
    have hbuild := (buildStatements_allTables_iff _ _).mp ⟨stmts, h⟩
    obtain ⟨text, n, hlookup, hn⟩ := hbuild.event
    rw [uuidField, hlookup]
    exact Option.isSome_iff_exists.mpr ⟨n, hn⟩
  constructor
  · rintro ⟨c, t, row, hrow, hnotNull, hread⟩
    obtain ⟨rfl, rfl, rfl⟩ := (hstores c t row).mp hrow
    refine ⟨⟨c, ?_, hcity⟩, ?_⟩
    · exact (mem_extractRows_iff.mp (hread (fun _ _ => [_]) (List.mem_singleton_self _))).1
    · exact ⟨hnotNull.riderId, hnotNull.pickupZoneId, hnotNull.dropoffZoneId,
        hnotNull.vehicleClass, hnotNull.paymentType, hnotNull.status⟩
  · rintro ⟨⟨c, hc, hcity'⟩, hcomplete⟩
    obtain rfl : city = c := Option.some.inj (hcity.symm.trans hcity')
    refine ⟨city, _, _, (hstores _ _ _).mpr ⟨rfl, rfl, rfl⟩, ?_, ?_⟩
    · exact ⟨heventId, rfl, hdriver, hcomplete.riderId, hcomplete.pickupZoneId,
        hcomplete.dropoffZoneId, hcomplete.vehicleClass, hcomplete.paymentType, hcomplete.status⟩
    · intro cass hmem
      exact mem_extractRows_iff.mpr ⟨hc, hmem⟩

end built

/-! ## Two events of the sink -/

/-- A trip of a city of the list, with every field. -/
def plainRow : StreamRow where
  raw := some "\x7b\x7d"
  topic := "trips.raw"
  partition := 0
  offset := 7
  kafkaTs := 0
  unparseable := false
  event :=
    { Event.nulls ℤ with
      eventId := some "00000000-0000-0000-0000-000000000001"
      tripId := some "00000000-0000-0000-0000-000000000002"
      eventTime := some 0
      producedAtMs := some 0
      cityId := some "nyc"
      driverId := some "d-1"
      riderId := some "r-1"
      pickupZoneId := some 4
      dropoffZoneId := some 9
      vehicleClass := some "standard"
      paymentType := some "card"
      fareAmount := some 12
      status := some "completed" }

/-- The same trip without its rider. -/
def riderlessRow : StreamRow :=
  { plainRow with event := { plainRow.event with riderId := none } }

/-- The sample rows have their statements. -/
theorem exists_stmts_of_plain (r : StreamRow) (h : r = plainRow ∨ r = riderlessRow) :
    ∃ stmts, buildStatements r.asDict allTables 0 = .ok stmts := by
  rcases h with rfl | rfl
  · exact ⟨_, rfl⟩
  · exact ⟨_, rfl⟩

/-- The general result at a row with every column. -/
theorem rollsUp_iff_plain :
    ∃ stmts, buildStatements plainRow.asDict allTables 0 = .ok stmts ∧
      (RollsUp stmts ↔
        (∃ city ∈ cities, plainRow.event.cityId = some city) ∧ Complete plainRow.event) := by
  obtain ⟨stmts, hstmts⟩ := exists_stmts_of_plain plainRow (Or.inl rfl)
  exact ⟨stmts, hstmts, rollsUp_iff hstmts⟩

/-- The sink has its statements for a trip without a rider; the stage table refuses the row. -/
theorem riderless_refused :
    ∃ stmts, buildStatements riderlessRow.asDict allTables 0 = .ok stmts ∧ ¬RollsUp stmts := by
  obtain ⟨stmts, hstmts⟩ := exists_stmts_of_plain riderlessRow (Or.inr rfl)
  refine ⟨stmts, hstmts, ?_⟩
  rintro ⟨city, hour, row, hrow, hnotNull, -⟩
  obtain ⟨_, _, _, -, -, -, hstores⟩ := stores_of_built hstmts
  obtain ⟨-, -, rfl⟩ := (hstores _ _ _).mp hrow
  cases hnotNull.riderId

end TripPipeline.Rollup
