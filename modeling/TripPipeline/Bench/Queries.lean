import Mathlib.Data.String.Basic
import TripPipeline.Bench.Star

/-!
# The queries of the benchmark

The five queries of `bench/analytics_queries.py` in both spellings: on `trips_wide`, and on
`fact_trip` joined with the dimensions. All of them aggregate the completed trips of a window of
days, by a key. `wideQuery` and `starQuery` are the two shapes, and every query is one of them at
its own key, values and row.

* `starQuery_eq_wideQuery`: the shapes agree where the dimension row of a fact has the attributes of
  the wide row.
* `arms_agree`: the queries agree on whatever a load leaves.

The average of `q4` is left out: a sum of `real`s depends on the order of the rows.
-/

namespace TripPipeline.Bench

open TripPipeline.Common TripPipeline.Lib
open Datetime (dayUs hourUs)

/-- What the queries take from Postgres beside exact sums. The `EXTRACT`s at UTC agree with Python's
`weekday`, `isocalendar` and `hour`; a collation orders the texts. -/
structure Postgres where
  dow : ℤ → ℤ
  week : ℤ → ℤ
  isoYear : ℤ → ℤ
  hour : ℤ → ℤ
  /-- The quotient of two `numeric`s, to the digits that are kept. -/
  div : ℚ → ℚ → ℚ
  collate : String → String → Bool
  dow_eq : ∀ t, dow t = (weekday (t / dayUs) + 1) % 7
  week_eq : ∀ t, week t = isoWeek (t / dayUs)
  isoYear_eq : ∀ t, isoYear t = Lib.isoYear (t / dayUs)
  hour_eq : ∀ t, hour t = t % dayUs / hourUs
  collate_trans : ∀ a b c, collate a b = true → collate b c = true → collate a c = true
  collate_total : ∀ a b, collate a b = true ∨ collate b a = true
  collate_antisymm : ∀ a b, collate a b = true → collate b a = true → a = b

/-- With exact quotients and the order of the code points. -/
instance : Inhabited Postgres where
  default :=
    { dow := fun t => (weekday (t / dayUs) + 1) % 7
      week := fun t => isoWeek (t / dayUs)
      isoYear := fun t => Lib.isoYear (t / dayUs)
      hour := fun t => t % dayUs / hourUs
      div := fun a b => a / b
      collate := fun a b => decide (a ≤ b)
      dow_eq := fun _ => rfl
      week_eq := fun _ => rfl
      isoYear_eq := fun _ => rfl
      hour_eq := fun _ => rfl
      collate_trans := fun a b c hab hbc => by
        rw [decide_eq_true_eq] at hab hbc ⊢
        exact le_trans hab hbc
      collate_total := fun a b => by
        rw [decide_eq_true_eq, decide_eq_true_eq]
        exact le_total a b
      collate_antisymm := fun a b hab hba => by
        rw [decide_eq_true_eq] at hab hba
        exact le_antisymm hab hba }

/-- A window of whole days, `[startDate, endDate)`. -/
structure Window where
  startDate : ℤ
  endDate : ℤ

namespace Window

variable (w : Window)

/-- `WHERE status = 'completed' AND event_time >= start_ts AND event_time < end_ts`, with midnights
for the two instants. -/
def keepsWide (t : WideRow) : Bool :=
  t.status = "completed" ∧ w.startDate * dayUs ≤ t.eventTime ∧ t.eventTime < w.endDate * dayUs

/-- `WHERE f.is_completed AND d.full_date >= start_date AND d.full_date < end_date`. -/
def keepsFact (f : FactRow) (d : DimDate) : Bool :=
  f.isCompleted ∧ w.startDate ≤ d.fullDate ∧ d.fullDate < w.endDate

end Window

/-! ## The two shapes -/

section shapes

variable {κ ν γ δ : Type} [DecidableEq κ] (db : Analytics) (w : Window)

/-- A query on `trips_wide`. -/
def wideQuery (key : WideRow → κ) (val : WideRow → ν) (row : κ → Multiset ν → γ) : Multiset γ :=
  groupBy row ((db.wide.filter w.keepsWide).map fun t => (key t, val t))

/-- A query on `fact_trip` joined with one dimension and with `dim_date`. -/
def starQuery {dimKey : δ → ℤ} (dim : Keyed dimKey) (foreign : FactRow → ℤ)
    (key : FactRow → δ → DimDate → κ) (val : FactRow → ν) (row : κ → Multiset ν → γ) :
    Multiset γ :=
  groupBy row (((join (fun p => p.1.dateKey) (join foreign db.facts dim) db.dims.date).filter
    fun p => w.keepsFact p.1.1 p.2).map fun p => (key p.1.1 p.1.2 p.2, val p.1.1))

end shapes

/-! ## The queries -/

/-- `COUNT(*)` and `ROUND(SUM(fare_amount), 2)` of a group. -/
structure Totals where
  trips : ℕ
  revenue : ℚ
  deriving DecidableEq

/-- The totals of a group. -/
def totals (fares : Multiset ℚ) : Totals := ⟨fares.card, roundAway 2 fares.sum⟩

/-- A row of `q1_revenue_by_region_day`. -/
structure RegionDay extends Totals where
  region : String
  day : ℤ
  deriving DecidableEq

/-- The row of a region and a day. -/
def regionDay (k : String × ℤ) (fares : Multiset ℚ) : RegionDay := ⟨totals fares, k.1, k.2⟩

/-- Source: `bench/analytics_queries.py` `q1_revenue_by_region_day`, `baseline` -/
def q1Baseline (db : Analytics) (w : Window) : Multiset RegionDay :=
  wideQuery db w (fun t => (t.region, t.eventTime / dayUs)) WideRow.fareAmount regionDay

/-- Source: `bench/analytics_queries.py` `q1_revenue_by_region_day`, `star` -/
def q1Star (db : Analytics) (w : Window) : Multiset RegionDay :=
  starQuery db w db.dims.city FactRow.cityKey (fun _ c d => (c.region, d.fullDate))
    FactRow.fareAmount regionDay

/-- A row of `q2_top_drivers_by_revenue`. -/
structure DriverTotals extends Totals where
  driverId : String
  deriving DecidableEq

/-- The row of a driver. -/
def driverTotals (k : String) (fares : Multiset ℚ) : DriverTotals := ⟨totals fares, k⟩

/-- `ORDER BY revenue DESC, driver_id`. -/
def Postgres.earnsMore (pg : Postgres) (a b : DriverTotals) : Prop :=
  b.revenue < a.revenue ∨ a.revenue = b.revenue ∧ pg.collate a.driverId b.driverId = true

instance (pg : Postgres) : DecidableRel pg.earnsMore := fun a b =>
  inferInstanceAs (Decidable (b.revenue < a.revenue ∨ a.revenue = b.revenue ∧
    pg.collate a.driverId b.driverId = true))

/-- The groups of `q2`, before ORDER BY and LIMIT. -/
def driversWide (db : Analytics) (w : Window) : Multiset DriverTotals :=
  wideQuery db w WideRow.driverId WideRow.fareAmount driverTotals

/-- The groups of `q2`, before ORDER BY and LIMIT. -/
def driversStar (db : Analytics) (w : Window) : Multiset DriverTotals :=
  starQuery db w db.dims.driver FactRow.driverKey (fun _ r _ => r.driverId) FactRow.fareAmount
    driverTotals

/-- A possible answer to `q2`.
Source: `bench/analytics_queries.py` `q2_top_drivers_by_revenue`, `baseline` -/
def Q2Baseline (pg : Postgres) (db : Analytics) (w : Window) (out : List DriverTotals) : Prop :=
  IsTop pg.earnsMore 25 (driversWide db w) out

/-- A possible answer to `q2`.
Source: `bench/analytics_queries.py` `q2_top_drivers_by_revenue`, `star` -/
def Q2Star (pg : Postgres) (db : Analytics) (w : Window) (out : List DriverTotals) : Prop :=
  IsTop pg.earnsMore 25 (driversStar db w) out

/-- A row of `q3_weekend_split_by_vehicle`. -/
structure VehicleSplit extends Totals where
  vehicleClass : String
  isWeekend : Bool
  avgFare : ℚ
  deriving DecidableEq

/-- The row of a vehicle class on weekends or on working days. -/
def vehicleSplit (pg : Postgres) (k : String × Bool) (fares : Multiset ℚ) : VehicleSplit :=
  ⟨totals fares, k.1, k.2, roundAway 2 (pg.div fares.sum fares.card)⟩

/-- Source: `bench/analytics_queries.py` `q3_weekend_split_by_vehicle`, `baseline` -/
def q3Baseline (pg : Postgres) (db : Analytics) (w : Window) : Multiset VehicleSplit :=
  wideQuery db w (fun t => (t.vehicleClass, decide (pg.dow t.eventTime ∈ [0, 6])))
    WideRow.fareAmount (vehicleSplit pg)

/-- Source: `bench/analytics_queries.py` `q3_weekend_split_by_vehicle`, `star` -/
def q3Star (pg : Postgres) (db : Analytics) (w : Window) : Multiset VehicleSplit :=
  starQuery db w db.dims.vehicle FactRow.vehicleKey (fun _ v d => (v.vehicleClass, d.isWeekend))
    FactRow.fareAmount (vehicleSplit pg)

/-- A row of `q4_hourly_demand_by_city`, without `avg_distance`. -/
structure CityHour extends Totals where
  cityName : String
  hourOfDay : ℤ
  deriving DecidableEq

/-- The row of a city and an hour. -/
def cityHour (k : String × ℤ) (fares : Multiset ℚ) : CityHour := ⟨totals fares, k.1, k.2⟩

/-- Source: `bench/analytics_queries.py` `q4_hourly_demand_by_city`, `baseline` -/
def q4Baseline (pg : Postgres) (db : Analytics) (w : Window) : Multiset CityHour :=
  wideQuery db w (fun t => (t.cityName, pg.hour t.eventTime)) WideRow.fareAmount cityHour

/-- Source: `bench/analytics_queries.py` `q4_hourly_demand_by_city`, `star` -/
def q4Star (db : Analytics) (w : Window) : Multiset CityHour :=
  starQuery db w db.dims.city FactRow.cityKey (fun f c _ => (c.cityName, f.hourOfDay))
    FactRow.fareAmount cityHour

/-- A row of `q5_surge_share_by_city_week`. -/
structure CityWeek extends Totals where
  cityName : String
  isoYear : ℤ
  isoWeek : ℤ
  surgedTrips : ℕ
  surgePct : Option ℚ
  deriving DecidableEq

/-- The row of a city and a week, from the surge flags and the fares. -/
def cityWeek (pg : Postgres) (k : String × ℤ × ℤ) (trips : Multiset (Bool × ℚ)) : CityWeek where
  toTotals := totals (trips.map Prod.snd)
  cityName := k.1
  isoYear := k.2.1
  isoWeek := k.2.2
  surgedTrips := trips.countP fun t => t.1
  surgePct :=
    -- `NULLIF(COUNT(*), 0)`
    if trips.card = 0 then none
    else some (roundAway 2 (pg.div (100 * trips.countP fun t => t.1) trips.card))

/-- Source: `bench/analytics_queries.py` `q5_surge_share_by_city_week`, `baseline` -/
def q5Baseline (pg : Postgres) (db : Analytics) (w : Window) : Multiset CityWeek :=
  wideQuery db w (fun t => (t.cityName, pg.isoYear t.eventTime, pg.week t.eventTime))
    (fun t => (decide (1 < t.surgeMultiplier), t.fareAmount)) (cityWeek pg)

/-- Source: `bench/analytics_queries.py` `q5_surge_share_by_city_week`, `star` -/
def q5Star (pg : Postgres) (db : Analytics) (w : Window) : Multiset CityWeek :=
  starQuery db w db.dims.city FactRow.cityKey (fun _ c d => (c.cityName, d.isoYear, d.isoWeek))
    (fun f => (f.isSurged, f.fareAmount)) (cityWeek pg)

/-! ## Agreement -/

/-- **A window of instants is the window of days.** -/
theorem keepsFact_eq {dims : Dims} {t : WideRow} {f : FactRow} (h : SameTrip dims t f)
    (w : Window) : w.keepsWide t = w.keepsFact f (dateRow (t.eventTime / dayUs)) := by
  have hstart : w.startDate * dayUs ≤ t.eventTime ↔ w.startDate ≤ t.eventTime / dayUs := by
    unfold dayUs hourUs
    omega
  have hend : t.eventTime < w.endDate * dayUs ↔ t.eventTime / dayUs < w.endDate := by
    unfold dayUs hourUs
    omega
  simp [Window.keepsWide, Window.keepsFact, h.completed, dateRow, hstart, hend]

section agree

variable {κ ν γ δ : Type} [DecidableEq κ] {dims : Dims} {db : Analytics} {dimKey : δ → ℤ}
  {dim : Keyed dimKey} {foreign : FactRow → ℤ} {keyWide : WideRow → κ}
  {keyStar : FactRow → δ → DimDate → κ} {valWide : WideRow → ν} {valStar : FactRow → ν}

/-- **The shapes agree**, where every fact finds a row of the dimension, and the rows it can find
have the attributes of the trip. -/
theorem starQuery_eq_wideQuery (hdb : Mirrored dims db) (row : κ → Multiset ν → γ) (w : Window)
    (hfound : ∀ t f, SameTrip dims t f → ∃ x ∈ dim.rows, dimKey x = foreign f ∧
      keyStar f x (dateRow (t.eventTime / dayUs)) = keyWide t)
    (hval : ∀ t f, SameTrip dims t f → valStar f = valWide t) :
    wideQuery db w keyWide valWide row = starQuery db w dim foreign keyStar valStar row := by
  obtain ⟨hdims, hrows⟩ := hdb
  have hdim : List.Forall₂ (fun t p => SameTrip dims t p.1 ∧ p.2 ∈ dim.rows ∧
      dimKey p.2 = foreign p.1) db.wide (join foreign db.facts dim) :=
    forall₂_join hrows fun t f h => (hfound t f h).imp fun x hx => ⟨hx.1, hx.2.1⟩
  have hdate : List.Forall₂ (fun t p => (SameTrip dims t p.1.1 ∧ p.1.2 ∈ dim.rows ∧
      dimKey p.1.2 = foreign p.1.1) ∧ p.2 ∈ dims.date.rows ∧ p.2.dateKey = p.1.1.dateKey) db.wide
      (join (fun p => p.1.dateKey) (join foreign db.facts dim) dims.date) :=
    forall₂_join hdim fun t p h => ⟨_, h.1.date⟩
  unfold wideQuery starQuery
  rw [hdims]
  refine congrArg (fun l : List (κ × ν) => groupBy row l) (map_filter_eq hdate ?_ ?_)
  all_goals
    rintro t ⟨⟨f, x⟩, d⟩ ⟨⟨hsame, hx, hxkey⟩, hd, hdkey⟩
    obtain rfl : d = dateRow (t.eventTime / dayUs) :=
      dims.date.eq_of_key hd hsame.date.1 (hdkey.trans hsame.date.2.symm)
  · exact keepsFact_eq hsame w
  · obtain ⟨y, hy, hykey, hattributes⟩ := hfound t f hsame
    obtain rfl : x = y := dim.eq_of_key hx hy (hxkey.trans hykey.symm)
    exact Prod.ext hattributes.symm (hval t f hsame).symm

end agree

/-- The flag of a day is what `EXTRACT(DOW ...) IN (0, 6)` says of its instants. -/
theorem isWeekend_dateRow (pg : Postgres) (t : ℤ) :
    (dateRow (t / dayUs)).isWeekend = decide (pg.dow t ∈ [0, 6]) := by
  have hdow := pg.dow_eq t
  have hweekday : 0 ≤ weekday (t / dayUs) ∧ weekday (t / dayUs) < 7 := by
    unfold weekday
    omega
  apply decide_eq_decide.mpr
  rw [List.mem_cons, List.mem_singleton]
  omega

section queries

variable {db : Analytics} (hdb : Mirrored db.dims db) (pg : Postgres) (w : Window)

include hdb

/-- The first query is the same on both schemas. -/
theorem q1_agree : q1Baseline db w = q1Star db w := by
  apply starQuery_eq_wideQuery hdb
  · intro t f h
    obtain ⟨c, hc, hkey, -, hregion⟩ := h.city
    exact ⟨c, hc, hkey, Prod.ext hregion rfl⟩
  · exact fun t f h => h.fare

/-- The totals per driver are the same on both schemas. -/
theorem drivers_agree : driversWide db w = driversStar db w := by
  apply starQuery_eq_wideQuery hdb
  · intro t f h
    exact h.driver
  · exact fun t f h => h.fare

/-- The third query is the same on both schemas. -/
theorem q3_agree : q3Baseline pg db w = q3Star pg db w := by
  apply starQuery_eq_wideQuery hdb
  · intro t f h
    obtain ⟨v, hv, hkey, hclass⟩ := h.vehicle
    exact ⟨v, hv, hkey, Prod.ext hclass (isWeekend_dateRow pg t.eventTime)⟩
  · exact fun t f h => h.fare

/-- The fourth query is the same on both schemas. -/
theorem q4_agree : q4Baseline pg db w = q4Star db w := by
  apply starQuery_eq_wideQuery hdb
  · intro t f h
    obtain ⟨c, hc, hkey, hname, -⟩ := h.city
    exact ⟨c, hc, hkey, Prod.ext hname (h.hour.trans (pg.hour_eq t.eventTime).symm)⟩
  · exact fun t f h => h.fare

/-- The fifth query is the same on both schemas. -/
theorem q5_agree : q5Baseline pg db w = q5Star pg db w := by
  apply starQuery_eq_wideQuery hdb
  · intro t f h
    obtain ⟨c, hc, hkey, hname, -⟩ := h.city
    exact ⟨c, hc, hkey, Prod.ext hname (Prod.ext (pg.isoYear_eq t.eventTime).symm
      (pg.week_eq t.eventTime).symm)⟩
  · exact fun t f h => Prod.ext h.surged h.fare

end queries

/-! ## The first drivers -/

section top

variable (pg : Postgres)

/-- Earning at least as much is transitive, ties broken by name. -/
theorem earnsMore_trans (a b c : DriverTotals) (hab : pg.earnsMore a b) (hbc : pg.earnsMore b c) :
    pg.earnsMore a c := by
  rcases hab with hab | ⟨hab, hdriver⟩
  · rcases hbc with hbc | ⟨hbc, -⟩
    · exact Or.inl (hbc.trans hab)
    · exact Or.inl (hbc ▸ hab)
  · rcases hbc with hbc | ⟨hbc, hdriver'⟩
    · exact Or.inl (hab ▸ hbc)
    · exact Or.inr ⟨hab.trans hbc, pg.collate_trans _ _ _ hdriver hdriver'⟩

/-- Of two drivers one comes first. -/
theorem earnsMore_total (a b : DriverTotals) : pg.earnsMore a b ∨ pg.earnsMore b a := by
  rcases lt_trichotomy a.revenue b.revenue with h | h | h
  · exact Or.inr (Or.inl h)
  · exact (pg.collate_total a.driverId b.driverId).imp (fun hle => Or.inr ⟨h, hle⟩)
      fun hle => Or.inr ⟨h.symm, hle⟩
  · exact Or.inl (Or.inl h)

/-- The order tells two drivers apart. -/
theorem driverId_eq_of_earnsMore {a b : DriverTotals} (hab : pg.earnsMore a b)
    (hba : pg.earnsMore b a) : a.driverId = b.driverId := by
  rcases hab with hab | ⟨hab, hdriver⟩
  · rcases hba with hba | ⟨hba, -⟩
    · exact absurd hab (lt_asymm hba)
    · exact absurd hba hab.ne
  · rcases hba with hba | ⟨-, hdriver'⟩
    · exact absurd hab hba.ne
    · exact pg.collate_antisymm _ _ hdriver hdriver'

/-- **`q2` has one answer**: the groups have one row for a driver, and the order has the driver in
it. -/
theorem q2_unique (db : Analytics) (w : Window) :
    ∃ answer, ∀ out, Q2Baseline pg db w out ↔ out = answer := by
  obtain ⟨answer, hanswer⟩ := exists_isTop (earnsMore_trans pg) (earnsMore_total pg) 25
    (driversWide db w)
  refine ⟨answer, fun out => ⟨fun hout => ?_, fun h => h ▸ hanswer⟩⟩
  refine hout.unique (fun a ha b hb hab hba => ?_) hanswer
  unfold driversWide wideQuery at ha hb
  exact eq_of_groupBy (fun _ _ => rfl) ha hb (driverId_eq_of_earnsMore pg hab hba)

end top

/-- Both arms answer alike: `q1`, `q3`, `q4` and `q5` with the same multiset of rows, `q2` with the
one list that is possible in either arm. -/
structure AnswerAlike (pg : Postgres) (db : Analytics) (w : Window) : Prop where
  q1 : q1Baseline db w = q1Star db w
  q2 : ∃ answer, ∀ out, (Q2Baseline pg db w out ↔ out = answer) ∧
    (Q2Star pg db w out ↔ out = answer)
  q3 : q3Baseline pg db w = q3Star pg db w
  q4 : q4Baseline pg db w = q4Star db w
  q5 : q5Baseline pg db w = q5Star pg db w

/-- **Wide table and star schema answer alike**, on whatever database a load leaves and in every
window of days. -/
theorem arms_agree (pg : Postgres) (args : LoadArgs) (tenure : ℕ → Fin tenureBands.length)
    (draws : ℕ → RowDraws) (w : Window) :
    AnswerAlike pg (left (load args tenure draws)) w := by
  obtain ⟨dims, hdb⟩ := load_mirrors args tenure draws
  obtain rfl := hdb.dims_eq
  obtain ⟨answer, hanswer⟩ := q2_unique pg (left (load args tenure draws)) w
  have hstar : ∀ out, Q2Star pg (left (load args tenure draws)) w out ↔ out = answer := by
    intro out
    rw [← hanswer out, Q2Star, Q2Baseline, drivers_agree hdb w]
  exact
    { q1 := q1_agree hdb w
      q2 := ⟨answer, fun out => ⟨hanswer out, hstar out⟩⟩
      q3 := q3_agree hdb pg w
      q4 := q4_agree hdb pg w
      q5 := q5_agree hdb pg w }

end TripPipeline.Bench
