import Mathlib.Data.List.TakeWhile
import TripPipeline.Bench.Corpus
import TripPipeline.Lib.Calendar
import TripPipeline.Lib.Except
import TripPipeline.Lib.Relational

/-!
# One corpus in two schemas

`bench/load_analytics.py` writes every event twice: into `trips_wide`, and into `fact_trip` with the
keys of the dimensions. The lines of both are collected and copied together, a batch in a
transaction. A run that raises leaves the batches before.

* `loadDimensions`, `generateAndLoad`, `load`: the loader.
* `SameTrip`: a row of the one table and a row of the other, seen through the dimensions, are one
  trip.
* `load_mirrors`: whatever way a run ends, the two tables hold the same trips in the same order.
* `length_of_generateAndLoad`: when it ends normally, they hold a trip for every row asked for.
-/

namespace TripPipeline.Bench

open TripPipeline.Common TripPipeline.Lib
open Datetime (dayUs hourUs)

/-! ## The dimensions -/

/-- A row of `dim_date`. A date is its day number. -/
structure DimDate where
  dateKey : ℤ
  fullDate : ℤ
  year : ℤ
  quarter : ℤ
  month : ℤ
  monthName : String
  dayOfMonth : ℤ
  dayOfWeek : ℤ
  dayName : String
  isoWeek : ℤ
  isoYear : ℤ
  isWeekend : Bool

/-- A row of `dim_city`. -/
structure DimCity where
  cityKey : ℤ
  cityId : String
  cityName : String
  region : String
  country : String

/-- A row of `dim_driver`. -/
structure DimDriver where
  driverKey : ℤ
  driverId : String
  tenureBand : String

/-- A row of `dim_vehicle`. -/
structure DimVehicle where
  vehicleKey : ℤ
  vehicleClass : String
  tier : String

/-- A row of `dim_payment`. -/
structure DimPayment where
  paymentKey : ℤ
  paymentType : String
  isCashless : Bool

/-- The dimensions. -/
structure Dims where
  date : Keyed DimDate.dateKey
  city : Keyed DimCity.cityKey
  driver : Keyed DimDriver.driverKey
  vehicle : Keyed DimVehicle.vehicleKey
  payment : Keyed DimPayment.paymentKey

/-- `CITY_META`. -/
def cityMeta : City → String × String × String
  | .nyc => ("New York", "Northeast", "USA")
  | .chi => ("Chicago", "Midwest", "USA")
  | .sfo => ("San Francisco", "West", "USA")
  | .lax => ("Los Angeles", "West", "USA")
  | .bos => ("Boston", "Northeast", "USA")
  | .sea => ("Seattle", "West", "USA")
  | .aus => ("Austin", "South", "USA")
  | .mia => ("Miami", "South", "USA")

/-- `VEHICLE_TIER`. -/
def vehicleTier : VehicleClass → String
  | .economy => "standard"
  | .comfort => "standard"
  | .xl => "premium"
  | .black => "premium"

/-- `CASHLESS`. -/
def cashless : PaymentType → Bool
  | .card => true
  | .wallet => true
  | .cash => false

/-- `TENURE_BANDS`. -/
def tenureBands : List String := ["new", "established", "veteran"]

/-- `strftime("%B")`. -/
def monthNames : List String :=
  ["January", "February", "March", "April", "May", "June", "July", "August", "September",
   "October", "November", "December"]

/-- `strftime("%A")`, from Monday on. -/
def dayNames : List String :=
  ["Monday", "Tuesday", "Wednesday", "Thursday", "Friday", "Saturday", "Sunday"]

/-- The arguments of a load, without the seed, which the draws stand for. -/
structure LoadArgs where
  rows : ℤ
  days : ℤ
  /-- The day number of `--start-date`. -/
  startDate : ℤ
  batch : ℤ

/-- `int(d.strftime("%Y%m%d"))` for a day number. -/
def dateKey (n : ℤ) : ℤ :=
  let d := CivilDate.ofDay n
  d.year * 10000 + d.month * 100 + d.day

/-- A `date`, which has a range. -/
def pyDate (n : ℤ) : Except Exc ℤ :=
  if CivilDate.toDay ⟨1, 1, 1⟩ ≤ n ∧ n ≤ CivilDate.toDay ⟨9999, 12, 31⟩ then .ok n
  else .error ⟨"OverflowError", "date value out of range", []⟩

/-- The row of a day. -/
def dateRow (n : ℤ) : DimDate :=
  let d := CivilDate.ofDay n
  { dateKey := dateKey n
    fullDate := n
    year := d.year
    quarter := (d.month - 1) / 3 + 1
    month := d.month
    monthName := monthNames.getD (d.month - 1).toNat ""
    dayOfMonth := d.day
    dayOfWeek := (weekday n + 1) % 7
    dayName := dayNames.getD (weekday n).toNat ""
    isoWeek := isoWeek n
    isoYear := isoYear n
    isWeekend := 5 ≤ weekday n }

/-- `city_map[cid]`. -/
def cityKey (c : City) : ℤ := cityIds.idxOf c + 1

/-- `veh_map[v]`. -/
def vehicleKey (v : VehicleClass) : ℤ := vehicleClasses.idxOf v + 1

/-- `pay_map[p]`. -/
def paymentKey (p : PaymentType) : ℤ := paymentTypes.idxOf p + 1

/-- The row of a city. -/
def cityRow (c : City) : DimCity :=
  ⟨cityKey c, c.id, (cityMeta c).1, (cityMeta c).2.1, (cityMeta c).2.2⟩

/-- The row of a vehicle class. -/
def vehicleRow (v : VehicleClass) : DimVehicle := ⟨vehicleKey v, v.text, vehicleTier v⟩

/-- The row of a payment type. -/
def paymentRow (p : PaymentType) : DimPayment := ⟨paymentKey p, p.text, cashless p⟩

/-- `f"d-{k:06d}"`. -/
def driverText (k : ℕ) : String := "d-" ++ String.ofList (zeroPad 6 k)

/-- The row of a driver. `tenure` is the draw of `rng.choice(TENURE_BANDS)`. -/
def driverRow (tenure : ℕ → Fin tenureBands.length) (k : ℕ) : DimDriver :=
  ⟨k, driverText k, tenureBands.get (tenure k)⟩

/-- The days of `dim_date`. -/
def paddedDays (args : LoadArgs) : List ℤ :=
  (List.range (args.days + 5).toNat).map fun i : ℕ => args.startDate - 2 + i

/-- Load the dimensions into empty tables.
Source: `bench/load_analytics.py` `load_dimensions` -/
def loadDimensions (args : LoadArgs) (tenure : ℕ → Fin tenureBands.length) : Except Exc Dims := do
  let days ← (paddedDays args).mapM pyDate
  .ok
    { date := Keyed.empty.insertNew DimDate.fullDate (days.map dateRow)
      city := Keyed.empty.insertNew DimCity.cityId (cityIds.map cityRow)
      vehicle := Keyed.empty.insertNew DimVehicle.vehicleClass (vehicleClasses.map vehicleRow)
      payment := Keyed.empty.insertNew DimPayment.paymentType (paymentTypes.map paymentRow)
      driver := Keyed.empty.insertNew DimDriver.driverId
        ((List.range nDrivers).map (driverRow tenure)) }

/-! ## The two tables -/

/-- A row of `trips_wide`, or a line of its CSV, where a number is the decimal that is written.
Instants are microseconds since the epoch.
Source: `sql/analytics/01_baseline.sql` -/
structure WideRow where
  tripId : ℕ
  eventId : ℕ
  eventTime : ℤ
  cityId : String
  cityName : String
  region : String
  driverId : String
  riderId : String
  pickupZoneId : ℤ
  dropoffZoneId : ℤ
  vehicleClass : String
  paymentType : String
  distanceKm : ℚ
  durationSec : ℤ
  fareAmount : ℚ
  surgeMultiplier : ℚ
  status : String

/-- A row of `fact_trip`, or a line of its CSV.
Source: `sql/analytics/02_star.sql` -/
structure FactRow where
  tripId : ℕ
  dateKey : ℤ
  driverKey : ℤ
  durationSec : ℤ
  pickupZoneId : ℤ
  fareAmount : ℚ
  distanceKm : ℚ
  surgeMultiplier : ℚ
  cityKey : ℤ
  vehicleKey : ℤ
  paymentKey : ℤ
  hourOfDay : ℤ
  isCompleted : Bool
  isSurged : Bool

/-- The database the queries run on. -/
structure Analytics where
  wide : List WideRow
  facts : List FactRow
  dims : Dims

/-- A column of an integer type. -/
def integerColumn (type : String) (bits : ℕ) (n : ℤ) : Except Exc ℤ :=
  if -2 ^ (bits - 1) ≤ n ∧ n < 2 ^ (bits - 1) then .ok n
  else .error ⟨"NumericValueOutOfRange",
    "value \"" ++ String.ofList (intText n) ++ "\" is out of range for type " ++ type, []⟩

/-- A column of type `numeric(10,2)`. -/
def moneyColumn (x : ℚ) : Except Exc ℚ :=
  if |roundAway 2 x| < 10 ^ 8 then .ok (roundAway 2 x)
  else .error ⟨"NumericValueOutOfRange", "numeric field overflow", []⟩

/-- The row Postgres makes of a line of `trips_wide`. -/
def wideColumns (line : WideRow) : Except Exc WideRow := do
  let pickupZoneId ← integerColumn "integer" 32 line.pickupZoneId
  let dropoffZoneId ← integerColumn "integer" 32 line.dropoffZoneId
  let durationSec ← integerColumn "integer" 32 line.durationSec
  let fareAmount ← moneyColumn line.fareAmount
  .ok { line with
    pickupZoneId, dropoffZoneId, durationSec, fareAmount
    distanceKm := flSingle line.distanceKm
    surgeMultiplier := flSingle line.surgeMultiplier }

/-- The row Postgres makes of a line of `fact_trip`. -/
def factColumns (line : FactRow) : Except Exc FactRow := do
  let dateKey ← integerColumn "integer" 32 line.dateKey
  let driverKey ← integerColumn "integer" 32 line.driverKey
  let durationSec ← integerColumn "integer" 32 line.durationSec
  let pickupZoneId ← integerColumn "integer" 32 line.pickupZoneId
  let fareAmount ← moneyColumn line.fareAmount
  let cityKey ← integerColumn "smallint" 16 line.cityKey
  let vehicleKey ← integerColumn "smallint" 16 line.vehicleKey
  let paymentKey ← integerColumn "smallint" 16 line.paymentKey
  let hourOfDay ← integerColumn "smallint" 16 line.hourOfDay
  .ok { line with
    dateKey, driverKey, durationSec, pickupZoneId, fareAmount, cityKey, vehicleKey, paymentKey
    hourOfDay
    distanceKm := flSingle line.distanceKm
    surgeMultiplier := flSingle line.surgeMultiplier }

/-- A column that REFERENCES the key of a dimension. -/
def foreignKey {ρ : Type} {key : ρ → ℤ} (column : String) (dim : Keyed key) (k : ℤ) :
    Except Exc Unit :=
  if k ∈ dim.rows.map key then .ok ()
  else .error ⟨"ForeignKeyViolation", "insert or update on table \"fact_trip\" violates foreign " ++
    "key constraint \"fact_trip_" ++ column ++ "_fkey\"", []⟩

/-- The foreign keys of a row of `fact_trip`. -/
def Dims.check (dims : Dims) (f : FactRow) : Except Exc Unit := do
  foreignKey "date_key" dims.date f.dateKey
  foreignKey "driver_key" dims.driver f.driverKey
  foreignKey "city_key" dims.city f.cityKey
  foreignKey "vehicle_key" dims.vehicle f.vehicleKey
  foreignKey "payment_key" dims.payment f.paymentKey

/-- Both COPY commands and the commit. An error undoes both. -/
def Analytics.copy (db : Analytics) (wideLines : List WideRow) (factLines : List FactRow) :
    Except Exc Analytics := do
  let wide ← wideLines.mapM wideColumns
  if ((db.wide ++ wide).map WideRow.tripId).Nodup then
    let facts ← factLines.mapM factColumns
    facts.forM db.dims.check
    .ok { db with wide := db.wide ++ wide, facts := db.facts ++ facts }
  else .error ⟨"UniqueViolation",
    "duplicate key value violates unique constraint \"trips_wide_pkey\"", []⟩

/-! ## The loader -/

/-- What the generators give for one row. -/
structure RowDraws where
  event : EventDraws
  day : ℕ
  hour : Fin 24
  second : Fin 3600

/-- `rng.randrange(n)`, from any number. -/
def randrange (n : ℤ) (draw : ℕ) : Except Exc ℤ :=
  if 0 < n then .ok (draw % n)
  else .error ⟨"ValueError", "empty range for randrange()", [.valueError]⟩

/-- `int(driver_id.split("-")[1])`. -/
def driverNumber (driverId : String) : Except Exc ℤ :=
  if '-' ∈ driverId.toList then
    let text := ((driverId.toList.dropWhile (· ≠ '-')).drop 1).takeWhile (· ≠ '-')
    if text ≠ [] ∧ text.all Char.isDigit then .ok (decimal text)
    else .error ⟨"ValueError", "invalid literal for int() with base 10: '" ++
      String.ofList text ++ "'", [.valueError]⟩
  else .error ⟨"IndexError", "list index out of range", []⟩

/-- The line for `trips_wide`. `writerow` spells a `float` with `repr`. -/
def wideLine (ev : Event) (et : ℤ) : WideRow where
  tripId := ev.tripId
  eventId := ev.eventId
  eventTime := et
  cityId := ev.city.id
  cityName := (cityMeta ev.city).1
  region := (cityMeta ev.city).2.1
  driverId := ev.driverId
  riderId := ev.riderId
  pickupZoneId := ev.pickupZoneId
  dropoffZoneId := ev.dropoffZoneId
  vehicleClass := ev.vehicleClass.text
  paymentType := ev.paymentType.text
  distanceKm := shortest ev.distanceKm
  durationSec := ev.durationSec
  fareAmount := shortest ev.fareAmount
  surgeMultiplier := shortest ev.surgeMultiplier
  status := ev.status

/-- The line for `fact_trip`. -/
def factLine (ev : Event) (et driverKey : ℤ) : FactRow where
  tripId := ev.tripId
  dateKey := dateKey (et / dayUs)
  driverKey := driverKey
  durationSec := ev.durationSec
  pickupZoneId := ev.pickupZoneId
  fareAmount := shortest ev.fareAmount
  distanceKm := shortest ev.distanceKm
  surgeMultiplier := shortest ev.surgeMultiplier
  cityKey := cityKey ev.city
  vehicleKey := vehicleKey ev.vehicleClass
  paymentKey := paymentKey ev.paymentType
  hourOfDay := et % dayUs / hourUs
  isCompleted := ev.status = "completed"
  isSurged := 1 < ev.surgeMultiplier

/-- The state of `generate_and_load`. -/
structure Loader where
  db : Analytics
  wideBuf : List WideRow
  factBuf : List FactRow
  written : ℤ

/-- An error, with the database it leaves. -/
def leaving {α : Type} (db : Analytics) (m : Except Exc α) : Except (Exc × Analytics) α :=
  m.mapError fun e => (e, db)

/-- `flush()`. -/
def Loader.flush (s : Loader) : Except (Exc × Analytics) Loader := do
  let db ← leaving s.db (s.db.copy s.wideBuf s.factBuf)
  .ok { s with db := db, wideBuf := [], factBuf := [] }

/-- One turn of the loop. -/
def Loader.next (args : LoadArgs) (s : Loader) (d : RowDraws) :
    Except (Exc × Analytics) Loader := do
  let ev := d.event.nextEvent
  let dayOffset ← leaving s.db (randrange args.days d.day)
  let secs := dayOffset * 86400 + (d.hour : ℕ) * 3600 + (d.second : ℕ)
  let et := args.startDate * dayUs + secs * 1000000
  let driverKey ← leaving s.db (driverNumber ev.driverId)
  let s := { s with
    wideBuf := s.wideBuf ++ [wideLine ev et]
    factBuf := s.factBuf ++ [factLine ev et driverKey]
    written := s.written + 1 }
  if args.batch = 0 then .error (⟨"ZeroDivisionError", "integer modulo by zero", []⟩, s.db)
  else if s.written % args.batch = 0 then s.flush
  else .ok s

/-- Source: `bench/load_analytics.py` `generate_and_load` -/
def generateAndLoad (args : LoadArgs) (draws : ℕ → RowDraws) (db : Analytics) :
    Except (Exc × Analytics) Loader := do
  let s ← ((List.range args.rows.toNat).map draws).foldlM (Loader.next args) ⟨db, [], [], 0⟩
  s.flush

/-- The database after `apply_schema`. -/
def freshAnalytics : Analytics where
  wide := []
  facts := []
  dims := ⟨Keyed.empty, Keyed.empty, Keyed.empty, Keyed.empty, Keyed.empty⟩

/-- A load of fresh tables.
Source: `bench/load_analytics.py` `main` -/
def load (args : LoadArgs) (tenure : ℕ → Fin tenureBands.length) (draws : ℕ → RowDraws) :
    Except (Exc × Analytics) Loader := do
  let dims ← leaving freshAnalytics (loadDimensions args tenure)
  generateAndLoad args draws { freshAnalytics with dims := dims }

/-- The database a load leaves. -/
def left : Except (Exc × Analytics) Loader → Analytics
  | .ok s => s.db
  | .error (_, db) => db

/-! ## What the dimensions hold -/

/-- A day is found by its key. -/
theorem dateKey_injective : Function.Injective dateKey := by
  intro a b h
  obtain ⟨hmonth0, hmonth1, hday0, hday1⟩ := CivilDate.ofDay_mem a
  obtain ⟨hmonth0', hmonth1', hday0', hday1'⟩ := CivilDate.ofDay_mem b
  simp only [dateKey] at h
  apply CivilDate.ofDay_injective
  rw [CivilDate.mk.injEq]
  refine ⟨?_, ?_, ?_⟩ <;> omega

/-- **The key of a driver is read off its id.** -/
theorem driverNumber_driverText (k : ℕ) : driverNumber (driverText k) = .ok k := by
  have hdigits := zeroPad_isDigit 6 k
  have hne : zeroPad 6 k ≠ [] := List.append_ne_nil_of_right_ne_nil _ (natText_ne_nil k)
  have hdash : ∀ c ∈ zeroPad 6 k, decide (c ≠ '-') = true := by
    intro c hc
    apply decide_eq_true
    rintro rfl
    cases hdigits _ hc
  have hchars : (driverText k).toList = 'd' :: '-' :: zeroPad 6 k := by
    simp [driverText, String.toList_append]
  have htext : (((driverText k).toList.dropWhile (· ≠ '-')).drop 1).takeWhile (· ≠ '-') =
      zeroPad 6 k := by
    rw [hchars]
    exact List.takeWhile_eq_self_iff.mpr hdash
  rw [driverNumber, if_pos (by simp [hchars])]
  dsimp only
  rw [htext, if_pos ⟨hne, List.all_eq_true.mpr hdigits⟩, decimal_zeroPad]

/-- Two drivers have two names. -/
theorem driverText_injective : Function.Injective driverText := by
  intro a b h
  have hok := driverNumber_driverText a
  rw [h, driverNumber_driverText] at hok
  simpa [eq_comm] using hok

/-- The padded days are distinct. -/
theorem nodup_paddedDays (args : LoadArgs) : (paddedDays args).Nodup := by
  apply List.nodup_range.map
  intro a b h
  simpa using h

/-- The padded days run from two before the first day to three after the last. -/
theorem mem_paddedDays {args : LoadArgs} {n : ℤ} :
    n ∈ paddedDays args ↔ args.startDate - 2 ≤ n ∧ n < args.startDate + args.days + 3 := by
  unfold paddedDays
  rw [List.mem_map]
  constructor
  · rintro ⟨i, hi, rfl⟩
    have := List.mem_range.mp hi
    omega
  · rintro ⟨h0, h1⟩
    exact ⟨(n - (args.startDate - 2)).toNat, List.mem_range.mpr (by omega), by omega⟩

/-- Days that are dates come back as they are. -/
theorem mapM_pyDate {days days' : List ℤ} (h : days.mapM pyDate = .ok days') : days' = days := by
  have hsame : List.Forall₂ (fun n m : ℤ => n = m) days days' := by
    refine (mapM_eq_ok_iff.mp h).imp fun n m hnm => ?_
    unfold pyDate at hnm
    split_ifs at hnm
    simpa using hnm
  exact (List.forall₂_eq_eq_eq ▸ hsame : days = days').symm

/-- The dimensions have a row for everything a trip of the load can refer to. -/
structure Covers (args : LoadArgs) (dims : Dims) : Prop where
  date : ∀ n, args.startDate ≤ n → n < args.startDate + args.days → dateRow n ∈ dims.date.rows
  city : ∀ c, cityRow c ∈ dims.city.rows
  vehicle : ∀ v, vehicleRow v ∈ dims.vehicle.rows
  payment : ∀ p, paymentRow p ∈ dims.payment.rows
  driver : ∀ k : Fin nDrivers, ∃ r ∈ dims.driver.rows, r.driverKey = (k : ℕ) ∧
    r.driverId = driverText k

/-- Rows of which no two share a key or a UNIQUE value are all in a table they are inserted in. -/
theorem mem_insertNew {α ρ κ υ : Type} [DecidableEq κ] [DecidableEq υ] {key : ρ → κ}
    {unique : ρ → υ} {row : α → ρ} {l : List α} (hkey : (l.map fun a => key (row a)).Nodup)
    (hunique : (l.map fun a => unique (row a)).Nodup) {a : α} (ha : a ∈ l) :
    row a ∈ ((Keyed.empty : Keyed key).insertNew unique (l.map row)).rows := by
  rw [Keyed.rows_insertNew]
  · exact List.mem_append_right _ (List.mem_map_of_mem ha)
  · simpa [Keyed.empty, Function.comp_def] using hkey
  · simpa [Keyed.empty, Function.comp_def] using hunique

/-- The dimensions, once loaded, have a row for every key a fact can name. -/
theorem covers_of_loadDimensions {args : LoadArgs} {tenure : ℕ → Fin tenureBands.length}
    {dims : Dims} (h : loadDimensions args tenure = .ok dims) : Covers args dims := by
  obtain ⟨days, hdays, hdims⟩ := bind_eq_ok_iff.mp h
  obtain rfl := mapM_pyDate hdays
  obtain rfl := Except.ok.inj hdims
  refine ⟨?_, ?_, ?_, ?_, ?_⟩
  · intro n h0 h1
    apply mem_insertNew
    · exact (nodup_paddedDays args).map dateKey_injective
    · simpa [dateRow] using nodup_paddedDays args
    · exact mem_paddedDays.mpr (by omega)
  · intro c
    apply mem_insertNew
    · decide
    · decide
    · cases c <;> decide
  · intro v
    apply mem_insertNew
    · decide
    · decide
    · cases v <;> decide
  · intro p
    apply mem_insertNew
    · decide
    · decide
    · cases p <;> decide
  · intro k
    refine ⟨driverRow tenure k, ?_, rfl, rfl⟩
    apply mem_insertNew
    · exact List.nodup_range.map fun a b hab => Int.ofNat.inj hab
    · exact List.nodup_range.map driverText_injective
    · exact List.mem_range.mpr k.2

/-! ## One trip in both tables -/

/-- A row of `trips_wide` and a row of `fact_trip` are one trip: the fact has the measures, and its
keys lead to dimension rows with the attributes of the wide row. -/
structure SameTrip (dims : Dims) (w : WideRow) (f : FactRow) : Prop where
  fare : f.fareAmount = w.fareAmount
  completed : f.isCompleted = decide (w.status = "completed")
  surged : f.isSurged = decide (1 < w.surgeMultiplier)
  hour : f.hourOfDay = w.eventTime % dayUs / hourUs
  date : dateRow (w.eventTime / dayUs) ∈ dims.date.rows ∧
    (dateRow (w.eventTime / dayUs)).dateKey = f.dateKey
  city : ∃ c ∈ dims.city.rows, c.cityKey = f.cityKey ∧ c.cityName = w.cityName ∧
    c.region = w.region
  driver : ∃ r ∈ dims.driver.rows, r.driverKey = f.driverKey ∧ r.driverId = w.driverId
  vehicle : ∃ v ∈ dims.vehicle.rows, v.vehicleKey = f.vehicleKey ∧
    v.vehicleClass = w.vehicleClass
  payment : ∃ p ∈ dims.payment.rows, p.paymentKey = f.paymentKey ∧ p.paymentType = w.paymentType

/-- Two lines of one event in the days of the load. -/
def SameEvent (args : LoadArgs) (wl : WideRow) (fl : FactRow) : Prop :=
  ∃ (d : EventDraws) (et : ℤ), args.startDate ≤ et / dayUs ∧
    et / dayUs < args.startDate + args.days ∧ wl = wideLine d.nextEvent et ∧
      fl = factLine d.nextEvent et (d.driver : ℕ)

/-- A column of an integer type passes the number on. -/
theorem integerColumn_bind {α : Type} {type : String} {bits : ℕ} {n : ℤ} {k : ℤ → Except Exc α}
    {a : α} (h : (integerColumn type bits n >>= k) = .ok a) : k n = .ok a := by
  obtain ⟨m, hm, h⟩ := bind_eq_ok_iff.mp h
  unfold integerColumn at hm
  split_ifs at hm
  exact Except.ok.inj hm ▸ h

/-- A wide row's money is cast and its `real` columns are rounded; the others stay. -/
theorem wideColumns_eq_ok {line w : WideRow} (h : wideColumns line = .ok w) :
    moneyColumn line.fareAmount = .ok w.fareAmount ∧
      w = { line with
        fareAmount := w.fareAmount
        distanceKm := flSingle line.distanceKm
        surgeMultiplier := flSingle line.surgeMultiplier } := by
  unfold wideColumns at h
  have hzones := integerColumn_bind (integerColumn_bind h)
  have hduration := integerColumn_bind hzones
  obtain ⟨fare, hfare, hrow⟩ := bind_eq_ok_iff.mp hduration
  obtain rfl := Except.ok.inj hrow
  exact ⟨hfare, rfl⟩

/-- A surged trip of 3 km. -/
def sampleDraws : EventDraws :=
  let half : Draw := ⟨1 / 2, by norm_num, by norm_num⟩
  let low : Draw := ⟨1 / 10, by norm_num, by norm_num⟩
  { city := .sfo, vclass := .comfort, length := 3, speed := half, slack := half, surged := low
    surge := half, cancelled := half, billed := false, cut := half, tripId := 1, eventId := 2
    driver := ⟨7, by decide⟩, rider := ⟨8, by decide⟩, pickup := ⟨3, by decide⟩
    dropoff := ⟨4, by decide⟩, payment := .card }

-- 490 seconds, and (3.5 + 3 * 1.55 + 490 / 60 * 0.3) * 2.1
example : (wideColumns (wideLine sampleDraws.nextEvent 0)).map
    (fun w => (w.driverId, w.durationSec, w.fareAmount)) = .ok ("d-000007", 490, 2226 / 100) := by
  decide +kernel

/-- A fact's money is cast and its `real` columns are rounded; the others stay. -/
theorem factColumns_eq_ok {line f : FactRow} (h : factColumns line = .ok f) :
    moneyColumn line.fareAmount = .ok f.fareAmount ∧
      f = { line with
        fareAmount := f.fareAmount
        distanceKm := flSingle line.distanceKm
        surgeMultiplier := flSingle line.surgeMultiplier } := by
  unfold factColumns at h
  have hkeys := integerColumn_bind (integerColumn_bind h)
  have hmeasures := integerColumn_bind (integerColumn_bind hkeys)
  obtain ⟨fare, hfare, hrest⟩ := bind_eq_ok_iff.mp hmeasures
  have hdims := integerColumn_bind (integerColumn_bind (integerColumn_bind hrest))
  have hrow := integerColumn_bind hdims
  obtain rfl := Except.ok.inj hrow
  exact ⟨hfare, rfl⟩

/-- **Two lines of one event become one trip.** -/
theorem sameTrip_of_sameEvent {args : LoadArgs} {dims : Dims} (hdims : Covers args dims)
    {wl w : WideRow} {fl f : FactRow} (h : SameEvent args wl fl) (hw : wideColumns wl = .ok w)
    (hf : factColumns fl = .ok f) : SameTrip dims w f := by
  obtain ⟨d, et, h0, h1, rfl, rfl⟩ := h
  obtain ⟨hwfare, hweq⟩ := wideColumns_eq_ok hw
  obtain ⟨hffare, hfeq⟩ := factColumns_eq_ok hf
  have hfare : f.fareAmount = w.fareAmount := Except.ok.inj (hffare.symm.trans hwfare)
  obtain ⟨r, hr, hrkey, hrid⟩ := hdims.driver d.driver
  rw [hweq, hfeq]
  constructor
  · exact hfare
  · rfl
  · exact decide_eq_decide.mpr (one_lt_single_iff d).symm
  · rfl
  · exact ⟨hdims.date _ h0 h1, rfl⟩
  · exact ⟨cityRow d.city, hdims.city d.city, rfl, rfl, rfl⟩
  · exact ⟨r, hr, hrkey, hrid⟩
  · exact ⟨vehicleRow d.vclass, hdims.vehicle d.vclass, rfl, rfl⟩
  · exact ⟨paymentRow d.payment, hdims.payment d.payment, rfl, rfl⟩

/-! ## The loop -/

/-- The two tables hold the same trips in the same order. -/
structure Mirrored (dims : Dims) (db : Analytics) : Prop where
  dims_eq : db.dims = dims
  rows : List.Forall₂ (SameTrip dims) db.wide db.facts

/-- Between two rows: both buffers have the lines of the same events. -/
structure Collecting (args : LoadArgs) (dims : Dims) (s : Loader) : Prop where
  db : Mirrored dims s.db
  buffers : List.Forall₂ (SameEvent args) s.wideBuf s.factBuf

/-- Casting the money of a wide row and of its fact leaves them the same trip. -/
theorem forall₂_sameTrip {args : LoadArgs} {dims : Dims} (hdims : Covers args dims)
    {wls ws : List WideRow} {fls fs : List FactRow} (h : List.Forall₂ (SameEvent args) wls fls)
    (hw : List.Forall₂ (fun wl w => wideColumns wl = .ok w) wls ws)
    (hf : List.Forall₂ (fun fl f => factColumns fl = .ok f) fls fs) :
    List.Forall₂ (SameTrip dims) ws fs := by
  induction h generalizing ws fs with
  | nil =>
      rw [List.forall₂_nil_left_iff.mp hw, List.forall₂_nil_left_iff.mp hf]
      exact List.Forall₂.nil
  | cons hevent _ ih =>
      obtain ⟨w, ws, hwl, hws, rfl⟩ := List.forall₂_cons_left_iff.mp hw
      obtain ⟨f, fs, hfl, hfs, rfl⟩ := List.forall₂_cons_left_iff.mp hf
      exact List.Forall₂.cons (sameTrip_of_sameEvent hdims hevent hwl hfl) (ih hws hfs)

/-- A batch goes into both tables or into none. -/
theorem mirrored_copy {args : LoadArgs} {dims : Dims} (hdims : Covers args dims)
    {db db' : Analytics} (hdb : Mirrored dims db) {wls : List WideRow} {fls : List FactRow}
    (hlines : List.Forall₂ (SameEvent args) wls fls) (h : db.copy wls fls = .ok db') :
    Mirrored dims db' := by
  obtain ⟨ws, hws, h⟩ := bind_eq_ok_iff.mp h
  split_ifs at h
  obtain ⟨fs, hfs, h⟩ := bind_eq_ok_iff.mp h
  obtain ⟨-, h⟩ := bind_unit_eq_ok_iff.mp h
  obtain rfl := Except.ok.inj h
  have hnew := forall₂_sameTrip hdims hlines (mapM_eq_ok_iff.mp hws) (mapM_eq_ok_iff.mp hfs)
  exact ⟨hdb.dims_eq, List.rel_append hdb.rows hnew⟩

/-- A statement that raises leaves the database as it is. -/
theorem ends_leaving {α : Type} {P : α → Prop} {Q : Exc × Analytics → Prop} {db : Analytics}
    {m : Except Exc α} (hok : ∀ a, m = .ok a → P a) (hdb : ∀ e, Q (e, db)) :
    Ends P Q (leaving db m) := by
  cases m with
  | error e => exact hdb e
  | ok a => exact hok a rfl

/-- A flush stores both buffers, so the tables still mirror each other. -/
theorem ends_flush {args : LoadArgs} {dims : Dims} (hdims : Covers args dims) {s : Loader}
    (hs : Collecting args dims s) :
    Ends (Collecting args dims) (fun e => Mirrored dims e.2) s.flush := by
  have hcopy : Ends (Mirrored dims) (fun e => Mirrored dims e.2)
      (leaving s.db (s.db.copy s.wideBuf s.factBuf)) :=
    ends_leaving (fun _ => mirrored_copy hdims hs.db hs.buffers) fun _ => hs.db
  exact hcopy.bind fun db hdb => ⟨hdb, List.Forall₂.nil⟩

/-- A draw of `randrange n` is below `n`. -/
theorem randrange_eq_ok {n k : ℤ} {draw : ℕ} (h : randrange n draw = .ok k) : 0 ≤ k ∧ k < n := by
  unfold randrange at h
  split_ifs at h with hn
  obtain rfl := Except.ok.inj h
  exact ⟨Int.emod_nonneg _ hn.ne', Int.emod_lt_of_pos _ hn⟩

/-- **One turn keeps the buffers together.** -/
theorem ends_next {args : LoadArgs} {dims : Dims} (hdims : Covers args dims) {s : Loader}
    (hs : Collecting args dims s) (d : RowDraws) :
    Ends (Collecting args dims) (fun e => Mirrored dims e.2) (s.next args d) := by
  have hoffset : Ends (fun k => 0 ≤ k ∧ k < args.days) (fun e => Mirrored dims e.2)
      (leaving s.db (randrange args.days d.day)) :=
    ends_leaving (fun _ => randrange_eq_ok) fun _ => hs.db
  have hdriver : Ends (fun k => k = ((d.event.driver : ℕ) : ℤ)) (fun e => Mirrored dims e.2)
      (leaving s.db (driverNumber d.event.nextEvent.driverId)) :=
    ends_leaving (fun k hk => Except.ok.inj (hk.symm.trans (driverNumber_driverText _)))
      fun _ => hs.db
  refine hoffset.bind fun dayOffset hday => hdriver.bind fun driverKey hkey => ?_
  subst hkey
  have hhour := d.hour.2
  have hsecond := d.second.2
  have hlines : SameEvent args _ _ :=
    ⟨d.event, args.startDate * dayUs + (dayOffset * 86400 + (d.hour : ℕ) * 3600 +
      (d.second : ℕ)) * 1000000, by unfold dayUs hourUs; omega, by unfold dayUs hourUs; omega,
      rfl, rfl⟩
  have hcollect : Collecting args dims { s with
      wideBuf := s.wideBuf ++ [_], factBuf := s.factBuf ++ [_], written := s.written + 1 } :=
    ⟨hs.db, List.rel_append hs.buffers (List.Forall₂.cons hlines List.Forall₂.nil)⟩
  dsimp only
  split_ifs
  · exact hs.db
  · exact ends_flush hdims hcollect
  · exact hcollect

/-- The whole load keeps the tables mirrored, wherever it ends. -/
theorem ends_generateAndLoad {args : LoadArgs} {dims : Dims} (hdims : Covers args dims)
    (draws : ℕ → RowDraws) {db : Analytics} (hdb : Mirrored dims db) :
    Ends (Collecting args dims) (fun e => Mirrored dims e.2) (generateAndLoad args draws db) := by
  have hstart : Collecting args dims ⟨db, [], [], 0⟩ := ⟨hdb, List.Forall₂.nil⟩
  exact (Ends.foldlM hstart fun s hs d => ends_next hdims hs d).bind fun s hs =>
    ends_flush hdims hs

/-- **However a load ends, its two tables hold the same trips.** -/
theorem load_mirrors (args : LoadArgs) (tenure : ℕ → Fin tenureBands.length)
    (draws : ℕ → RowDraws) : ∃ dims, Mirrored dims (left (load args tenure draws)) := by
  have hfresh : ∀ dims, Mirrored dims { freshAnalytics with dims := dims } := fun dims =>
    ⟨rfl, List.Forall₂.nil⟩
  have hdims : Ends (Covers args) (fun e => ∃ dims, Mirrored dims e.2)
      (leaving freshAnalytics (loadDimensions args tenure)) :=
    ends_leaving (fun _ => covers_of_loadDimensions) fun _ => ⟨_, hfresh freshAnalytics.dims⟩
  have hload : Ends (fun s : Loader => ∃ dims, Mirrored dims s.db)
      (fun e => ∃ dims, Mirrored dims e.2) (load args tenure draws) :=
    hdims.bind fun dims hcovers =>
      (ends_generateAndLoad hcovers draws (hfresh dims)).imp (fun s hs => ⟨dims, hs.db⟩)
        fun e he => ⟨dims, he⟩
  cases h : load args tenure draws with
  | error e =>
      rw [h] at hload
      exact hload
  | ok s =>
      rw [h] at hload
      exact hload

/-! ## No row is left in a buffer -/

/-- The events that have a row or a line. -/
def Loader.held (s : Loader) : ℕ := s.db.wide.length + s.wideBuf.length

/-- Keeping the database beside an error changes no result. -/
theorem leaving_eq_ok_iff {α : Type} {db : Analytics} {m : Except Exc α} {a : α} :
    leaving db m = .ok a ↔ m = .ok a := by
  cases m <;> simp [leaving, Except.mapError]

/-- A flush empties the buffer and loses no row. -/
theorem held_flush {s s' : Loader} (h : s.flush = .ok s') :
    s'.held = s.held ∧ s'.wideBuf = [] := by
  obtain ⟨db, hdb, h⟩ := bind_eq_ok_iff.mp h
  obtain rfl := Except.ok.inj h
  obtain ⟨ws, hws, hcopy⟩ := bind_eq_ok_iff.mp (leaving_eq_ok_iff.mp hdb)
  split_ifs at hcopy
  obtain ⟨fs, -, hcopy⟩ := bind_eq_ok_iff.mp hcopy
  obtain ⟨-, hcopy⟩ := bind_unit_eq_ok_iff.mp hcopy
  obtain rfl := Except.ok.inj hcopy
  have hlength := (mapM_eq_ok_iff.mp hws).length_eq
  refine ⟨?_, rfl⟩
  simp [Loader.held, hlength]

/-- One turn of the loop holds one more row. -/
theorem held_next {args : LoadArgs} {s s' : Loader} {d : RowDraws} (h : s.next args d = .ok s') :
    s'.held = s.held + 1 := by
  obtain ⟨dayOffset, -, h⟩ := bind_eq_ok_iff.mp h
  obtain ⟨driverKey, -, h⟩ := bind_eq_ok_iff.mp h
  dsimp only at h
  split_ifs at h
  · rw [(held_flush h).1]
    simp [Loader.held, Nat.add_assoc]
  · obtain rfl := Except.ok.inj h
    simp [Loader.held, Nat.add_assoc]

/-- **A load that ends normally has stored every row it generated**, the last batch included. -/
theorem length_of_generateAndLoad {args : LoadArgs} {draws : ℕ → RowDraws} {db : Analytics}
    {s : Loader} (h : generateAndLoad args draws db = .ok s) :
    s.db.wide.length = db.wide.length + args.rows.toNat := by
  obtain ⟨collected, hloop, hflush⟩ := bind_eq_ok_iff.mp h
  have hcollected : collected.held = db.wide.length + args.rows.toNat := by
    have hrec := foldlM_rec hloop (P := fun done s => s.held = db.wide.length + done.length)
      (by simp [Loader.held]) fun done d s s' hs hnext => by
        rw [held_next hnext, hs, List.length_append, List.length_singleton, Nat.add_assoc]
    simpa using hrec
  obtain ⟨hheld, hempty⟩ := held_flush hflush
  rw [← hcollected, ← hheld, Loader.held, hempty, List.length_nil, Nat.add_zero]

end TripPipeline.Bench
