import TripPipeline.Lib.Binary64
import TripPipeline.Rollup.Accept
import TripPipeline.Rollup.Converge

/-!
# A backfill of a window

`plan_window` counts the hours of a window and `reprocess_window` steps through it by the hour, both
from its start. The partitions of `trips_by_city_hour` are those of whole hours: `build_statements`
cuts an `event_time` down to its hour. A read finds something only where a step falls on an hour.

* `HourTable` is a table filled by `build_statements`. The driver binds an instant in whole
  milliseconds.
* `planWindow_ok_iff`: a plan holds the whole hours of its window.
* `mem_hoursFrom_iff`, `length_hoursFrom`: the hours a backfill visits.
* `backfilled_iff`: a backfill covers its window iff the window is a whole number of hours long
  and starts on an hour, or holds no trip.
-/

namespace TripPipeline.Rollup

open TripPipeline.Common TripPipeline.Lib
open TripPipeline.Streaming
open Datetime (hourUs)

/-! ## The table -/

/-- `trips_by_city_hour` with the partitions `build_statements` writes to: a row stands under the
hour of its `event_time`. -/
structure HourTable where
  rows : String → ℤ → List CityHourRow
  bucketed : ∀ city hour, ∀ r ∈ rows city hour,
    ∃ us, r.eventTime = some us ∧ us - us % hourUs = hour

/-- The row of an accepted event may stand in an `HourTable`. -/
theorem Stores.bucketed {r : StreamRow} {ingestedAtMs : ℤ} {stmts : List Statement}
    (h : buildStatements r.asDict allTables ingestedAtMs = .ok stmts) {city : String} {hour : ℤ}
    {row : CityHourRow} (hrow : Stores stmts city hour row) :
    ∃ us, row.eventTime = some us ∧ us - us % hourUs = hour := by
  obtain ⟨_, _, us, -, -, -, hstores⟩ := stores_of_built h
  obtain ⟨-, rfl, rfl⟩ := (hstores _ _ _).mp hrow
  exact ⟨us, rfl, rfl⟩

/-- The instant a bound `timestamp` parameter denotes: it has whole milliseconds. -/
def timestampParam (us : ℤ) : ℤ := us - us % 1000

/-- What the SELECT returns for a bound hour. -/
def HourTable.select (table : HourTable) : TripsByCityHour :=
  fun city hour => table.rows city (timestampParam hour)

/-- A trip of the cities with its `event_time` in a window. -/
structure HourTable.InWindow (table : HourTable) (start stop : ℤ) (city : String) (r : CityHourRow)
    (us : ℤ) : Prop where
  mem_cities : city ∈ cities
  mem_rows : ∃ hour, r ∈ table.rows city hour
  time : r.eventTime = some us
  start_le : start ≤ us
  lt_stop : us < stop

/-! ## The plan -/

/-- What `plan_window` returns. -/
structure Plan where
  start : ℤ
  stop : ℤ
  hours : ℤ
  auditId : ℤ

/-- `MAX_HOURS`. -/
def maxHours : ℤ := 24 * 14

/-- `int((end - start).total_seconds() // 3600)`. -/
def windowHours (start stop : ℤ) : ℤ := ⌊fl (((stop - start : ℤ) : ℚ) / 1000000) / 3600⌋

/-- The plan of a window. `text` is `str` of a `datetime`, and `auditId` the id of the audit row.
Source: `airflow/dags/trips_backfill.py` `plan_window` -/
def planWindow (text : ℤ → String) (auditId start stop : ℤ) : Except Exc Plan :=
  if stop ≤ start then
    .error ⟨"ValueError", "end " ++ text stop ++ " must be after start " ++ text start,
      [.valueError]⟩
  else if maxHours < windowHours start stop then
    .error ⟨"ValueError", "window spans " ++ toString (windowHours start stop) ++ "h, above the " ++
      toString maxHours ++ "h ceiling. Run it in chunks - one enormous backfill competing with " ++
      "live ingest for the same ring is how a backfill causes an outage.", [.valueError]⟩
  else .ok ⟨start, stop, windowHours start stop, auditId⟩

/-- What `reprocess_window` returns. -/
structure BackfillResult extends Plan where
  rowsRead : ℕ
  rowsLoaded : ℕ
  emptyHours : ℕ

/-- The result of a backfill that ended. -/
def Plan.result (plan : Plan) (p : Progress) : BackfillResult :=
  ⟨plan, p.totalRead, p.totalLoaded, p.emptyHours⟩

/-- What `close_audit` writes into the audit row, and whether it raises `backfill_empty`. -/
structure AuditUpdate where
  id : ℤ
  rowsLoaded : ℕ
  notes : String
  alert : Bool

/-- Source: `airflow/dags/trips_backfill.py` `close_audit` -/
def closeAudit (result : BackfillResult) : AuditUpdate where
  id := result.auditId
  rowsLoaded := result.rowsLoaded
  notes := toString result.hours ++ "h window, " ++ toString result.emptyHours ++ " empty hours"
  alert := (result.emptyHours : ℤ) = result.hours

/-- An hour in microseconds. -/
theorem hourUs_eq : hourUs = 3600000000 := rfl

/-- The hours of a window that is short enough for a double. -/
theorem windowHours_of_lt {start stop : ℤ} (h : start ≤ stop) (hlt : stop - start < 2 ^ 53) :
    windowHours start stop = (stop - start) / hourUs := by
  have hfloor := floor_fl_div (d := 1000000) (w := 3600) (sub_nonneg.mpr h) hlt (by norm_num)
    (by norm_num)
  have hhour : hourUs = ((1000000 * 3600 : ℕ) : ℤ) := rfl
  rw [windowHours, hhour, ← hfloor]
  norm_num

/-- The rounding does not touch the hours of a window of at most a fortnight. -/
theorem windowHours_eq {start stop : ℤ} (h : start ≤ stop)
    (hmax : windowHours start stop ≤ maxHours) :
    windowHours start stop = (stop - start) / hourUs := by
  apply windowHours_of_lt h
  by_contra hge
  have hbig : ((2 ^ 32 : ℤ) : ℚ) ≤ ((stop - start : ℤ) : ℚ) / 1000000 := by
    rw [le_div_iff₀ (by norm_num)]
    exact_mod_cast (by omega : (2 ^ 32 : ℤ) * 1000000 ≤ stop - start)
  have hfl := fl_mono hbig
  rw [fl_intCast (by norm_num)] at hfl
  have hfloor : (1000 : ℤ) ≤ windowHours start stop := by
    rw [windowHours, Int.le_floor, le_div_iff₀ (by norm_num)]
    push_cast at hfl ⊢
    linarith
  have hfortnight : maxHours = 336 := rfl
  omega

/-- **A plan holds the whole hours of its window.** -/
theorem planWindow_ok_iff {text : ℤ → String} {auditId start stop : ℤ} {plan : Plan} :
    planWindow text auditId start stop = .ok plan ↔
      start < stop ∧ windowHours start stop ≤ maxHours ∧
        plan = ⟨start, stop, (stop - start) / hourUs, auditId⟩ := by
  unfold planWindow
  split_ifs with horder hmax
  · simp [not_lt.mpr horder]
  · simp [not_le.mpr hmax]
  · rw [← windowHours_eq (not_le.mp horder).le (not_lt.mp hmax)]
    simp only [Except.ok.injEq]
    constructor
    · rintro rfl
      exact ⟨not_le.mp horder, not_lt.mp hmax, rfl⟩
    · rintro ⟨-, -, rfl⟩
      rfl

/-! ## The hours that are visited -/

/-- The first hour of a window, then the others. -/
theorem hoursFrom_of_lt {hour stop : ℤ} (h : hour < stop) :
    hoursFrom hour stop = hour :: hoursFrom (hour + hourUs) stop := by
  rw [hoursFrom, if_pos h]

/-- A window that ends before it starts has no hours. -/
theorem hoursFrom_of_le {hour stop : ℤ} (h : stop ≤ hour) : hoursFrom hour stop = [] := by
  rw [hoursFrom, if_neg (not_lt.mpr h)]

/-- The loop visits its start and what lies whole hours after it, up to its end. -/
theorem mem_hoursFrom_iff {hour start stop : ℤ} :
    hour ∈ hoursFrom start stop ↔ start ≤ hour ∧ hour < stop ∧ hourUs ∣ hour - start := by
  fun_induction hoursFrom start stop with
  | case1 start hlt ih =>
      rw [List.mem_cons, ih]
      simp only [hourUs_eq]
      omega
  | case2 start hge =>
      simp only [List.not_mem_nil, false_iff]
      omega

/-- The loop takes a turn for every hour that has begun. -/
theorem length_hoursFrom {start stop : ℤ} (h : start ≤ stop) :
    ((hoursFrom start stop).length : ℤ) = (stop - start + (hourUs - 1)) / hourUs := by
  fun_induction hoursFrom start stop with
  | case1 start hlt ih =>
      rcases le_or_gt (start + hourUs) stop with hle | hgt
      · rw [List.length_cons, Nat.cast_succ, ih hle]
        simp only [hourUs_eq]
        omega
      · rw [hoursFrom_of_le hgt.le]
        simp only [hourUs_eq, List.length_singleton, Nat.cast_one] at hgt ⊢
        omega
  | case2 start hge =>
      simp only [hourUs_eq, List.length_nil, Nat.cast_zero]
      omega

/-! ## What a backfill covers -/

/-- The rows a backfill of the plan reads. -/
def Plan.rows (plan : Plan) (table : HourTable) : List (String × CityHourRow) :=
  (LoadTask.reprocessWindow plan.start plan.stop).rows table.select

/-- The backfill of a plan covered its window. -/
structure Backfilled (table : HourTable) (plan : Plan) (result : BackfillResult) : Prop where
  /-- Every trip of the window is among the rows that were read. -/
  covers : ∀ city r us, table.InWindow plan.start plan.stop city r us → (city, r) ∈ plan.rows table
  /-- Every partition that was read meets the window. -/
  inside : ∀ hour ∈ hoursFrom plan.start plan.stop,
    timestampParam hour < plan.stop ∧ plan.start < timestampParam hour + hourUs
  /-- The plan counts the partitions of a city that were read. -/
  hours : ((hoursFrom plan.start plan.stop).length : ℤ) = plan.hours
  /-- The audit alerts iff nothing was found. -/
  alert : (closeAudit result).alert ↔ result.rowsRead = 0

/-- No trip of the cities has its `event_time` in a window. -/
def HourTable.Empty (table : HourTable) (start stop : ℤ) : Prop :=
  ∀ city r us, ¬table.InWindow start stop city r us

/-- The window is a whole number of hours. It starts on an hour or holds no trip, and it holds none
in the fraction of a millisecond at its end. -/
structure OnTheHour (table : HourTable) (start stop : ℤ) : Prop where
  whole : hourUs ∣ stop - start
  aligned : hourUs ∣ timestampParam start ∨ table.Empty start stop
  tail : table.Empty (timestampParam stop) stop

/-- A trip is read iff one of the hours visited is bound as its own. -/
theorem mem_planRows_iff {plan : Plan} {table : HourTable} {city : String} {r : CityHourRow}
    {us : ℤ} (h : table.InWindow plan.start plan.stop city r us) :
    (city, r) ∈ plan.rows table ↔
      ∃ hour ∈ hoursFrom plan.start plan.stop, timestampParam hour = us - us % hourUs := by
  have hrows : ∀ hour, r ∈ table.rows city hour ↔ hour = us - us % hourUs := by
    have hbucket : ∀ hour, r ∈ table.rows city hour → hour = us - us % hourUs := by
      intro hour hr
      obtain ⟨us', htime, rfl⟩ := table.bucketed city hour r hr
      obtain rfl := Option.some.inj (h.time.symm.trans htime)
      rfl
    intro hour
    refine ⟨hbucket hour, ?_⟩
    rintro rfl
    obtain ⟨hour, hr⟩ := h.mem_rows
    rwa [← hbucket hour hr]
  unfold Plan.rows LoadTask.rows
  simp only [List.mem_flatMap, mem_extractRows_iff, HourTable.select, hrows, h.mem_cities,
    true_and]

/-- **The trips of a window of whole hours are read iff it starts on an hour**, but for those of its
last fraction of a millisecond. -/
theorem covers_iff {plan : Plan} {table : HourTable} (hlt : plan.start < plan.stop)
    (hwhole : hourUs ∣ plan.stop - plan.start) :
    (∀ city r us, table.InWindow plan.start plan.stop city r us → (city, r) ∈ plan.rows table) ↔
      (hourUs ∣ timestampParam plan.start ∨ table.Empty plan.start plan.stop) ∧
        table.Empty (timestampParam plan.stop) plan.stop := by
  have hread : ∀ us, (∃ hour ∈ hoursFrom plan.start plan.stop,
      timestampParam hour = us - us % hourUs) ↔
        hourUs ∣ timestampParam plan.start ∧ timestampParam plan.start ≤ us ∧
          us < timestampParam plan.stop := by
    intro us
    simp only [mem_hoursFrom_iff, timestampParam, hourUs_eq] at hwhole ⊢
    constructor
    · rintro ⟨hour, ⟨hstart, hstop, hdvd⟩, heq⟩
      omega
    · rintro ⟨haligned, hstart, hstop⟩
      -- the turn as far from the start as the hour of the trip is from the bound start
      refine ⟨plan.start + (us - us % 3600000000 - (plan.start - plan.start % 1000)), ?_, ?_⟩
      · omega
      · omega
  constructor
  · intro hcovers
    have hvisited : ∀ city r us, table.InWindow plan.start plan.stop city r us →
        hourUs ∣ timestampParam plan.start ∧ timestampParam plan.start ≤ us ∧
          us < timestampParam plan.stop :=
      fun city r us h => (hread us).mp ((mem_planRows_iff h).mp (hcovers city r us h))
    constructor
    · by_cases hempty : table.Empty plan.start plan.stop
      · exact Or.inr hempty
      · obtain ⟨city, r, us, h⟩ : ∃ city r us, table.InWindow plan.start plan.stop city r us := by
          simpa [HourTable.Empty] using hempty
        exact Or.inl (hvisited city r us h).1
    · intro city r us h
      have hstart : plan.start ≤ us := by
        have := h.start_le
        simp only [timestampParam, hourUs_eq] at this hwhole
        omega
      exact absurd h.start_le
        (not_le.mpr (hvisited city r us ⟨h.mem_cities, h.mem_rows, h.time, hstart, h.lt_stop⟩).2.2)
  · rintro ⟨haligned, htail⟩ city r us h
    rw [mem_planRows_iff h, hread us]
    have hstart := h.start_le
    refine ⟨haligned.resolve_right fun hempty => hempty city r us h, ?_, ?_⟩
    · simp only [timestampParam]
      omega
    · by_contra hge
      exact htail city r us ⟨h.mem_cities, h.mem_rows, h.time, not_lt.mp hge, h.lt_stop⟩

/-- A turn of the loop reads a partition that meets the window. -/
theorem timestampParam_inside {plan : Plan} {hour : ℤ}
    (h : hour ∈ hoursFrom plan.start plan.stop) :
    timestampParam hour < plan.stop ∧ plan.start < timestampParam hour + hourUs := by
  obtain ⟨hstart, hstop, -⟩ := mem_hoursFrom_iff.mp h
  simp only [timestampParam, hourUs_eq]
  omega

/-- A backfill that found nothing counts as many empty hours as it visited. -/
theorem emptyHours_eq_iff {casts : PgCasts} {now : ℤ → ℤ} {cass : TripsByCityHour}
    {start stop : ℤ} {s : Stage} {p : Progress}
    (hrun : reprocessWindow casts now cass start stop s = (p, .ok ())) :
    p.emptyHours = (hoursFrom start stop).length ↔ p.totalRead = 0 := by
  obtain ⟨-, hread, hempty⟩ := reprocessHours_ok hrun
  rw [hread, hempty, Nat.zero_add, Nat.zero_add, List.countP_eq_length, List.length_eq_zero_iff,
    List.flatMap_eq_nil_iff]
  simp only [List.isEmpty_iff]

/-- **What a backfill reads it upserts, and it covers its window iff this is a whole number of hours
from an hour, or holds no trip.** -/
theorem backfilled_iff {casts : PgCasts} {now : ℤ → ℤ} {table : HourTable} {text : ℤ → String}
    {auditId start stop : ℤ} {plan : Plan} {s : Stage} {p : Progress}
    (hplan : planWindow text auditId start stop = .ok plan)
    (hrun : reprocessWindow casts now table.select plan.start plan.stop s = (p, .ok ())) :
    (∃ new, List.Forall₂ (RowOf casts) (plan.rows table) new ∧ p.stage = s.insert new) ∧
      (Backfilled table plan (plan.result p) ↔ OnTheHour table start stop) := by
  refine ⟨(reprocessHours_ok hrun).1, ?_⟩
  have halert : (closeAudit (plan.result p)).alert = true ↔ (p.emptyHours : ℤ) = plan.hours :=
    decide_eq_true_iff
  have hnothing := emptyHours_eq_iff hrun
  obtain ⟨hlt, -, rfl⟩ := planWindow_ok_iff.mp hplan
  have hcount := length_hoursFrom hlt.le
  have hcovers := @covers_iff ⟨start, stop, (stop - start) / hourUs, auditId⟩ table hlt
  dsimp only at *
  have hwhole : ((hoursFrom start stop).length : ℤ) = (stop - start) / hourUs ↔
      hourUs ∣ stop - start := by
    rw [hcount, hourUs_eq]
    omega
  constructor
  · intro h
    have hdvd := hwhole.mp h.hours
    obtain ⟨haligned, htail⟩ := (hcovers hdvd).mp h.covers
    exact ⟨hdvd, haligned, htail⟩
  · intro h
    have hhours := hwhole.mpr h.whole
    refine ⟨(hcovers h.whole).mpr ⟨h.aligned, h.tail⟩, fun hour => timestampParam_inside, hhours,
      ?_⟩
    rw [halert, ← hhours, Int.natCast_inj]
    exact hnothing

/-! ## Two windows -/

/-- The table with one trip, at a quarter to one. -/
def quarterTable : HourTable where
  rows city hour := if city = "nyc" ∧ hour = 0 then [{ sampleRow "completed" 5 with
    eventTime := some 2700000000 }] else []
  bucketed := by
    intro city hour r hr
    split_ifs at hr with h
    · obtain rfl := List.mem_singleton.mp hr
      exact ⟨2700000000, rfl, h.2.symm ▸ rfl⟩
    · cases hr

/-- A window of one hour has that hour. -/
theorem hoursFrom_one (start : ℤ) : hoursFrom start (start + hourUs) = [start] := by
  rw [hoursFrom_of_lt (by simp [hourUs_eq]), hoursFrom_of_le le_rfl]

/-- The plan of a window of one hour. -/
theorem planWindow_one (start : ℤ) :
    planWindow (fun _ => "") 1 start (start + hourUs) = .ok ⟨start, start + hourUs, 1, 1⟩ := by
  have hhours : windowHours start (start + hourUs) = 1 := by
    rw [windowHours_of_lt (by simp [hourUs_eq]) (by simp [hourUs_eq])]
    simp [hourUs_eq]
  rw [planWindow_ok_iff, hhours]
  refine ⟨by simp [hourUs_eq], by decide, ?_⟩
  simp [hourUs_eq]

/-- Both sample windows are reprocessed without an error. -/
theorem exists_run_one (start : ℤ) (hstart : start = 0 ∨ start = 1800000000) :
    ∃ p, reprocessWindow plainCasts id quarterTable.select start (start + hourUs) emptyStage =
      (p, .ok ()) := by
  rw [reprocessWindow, hoursFrom_one]
  rcases hstart with rfl | rfl
  · exact ⟨_, rfl⟩
  · exact ⟨_, rfl⟩

/-- The general result at a window on the hour. -/
theorem backfilled_iff_first :
    ∃ p, reprocessWindow plainCasts id quarterTable.select 0 (0 + hourUs) emptyStage = (p, .ok ()) ∧
      (Backfilled quarterTable ⟨0, 0 + hourUs, 1, 1⟩ (Plan.result ⟨0, 0 + hourUs, 1, 1⟩ p) ↔
        OnTheHour quarterTable 0 (0 + hourUs)) := by
  obtain ⟨p, hp⟩ := exists_run_one 0 (Or.inl rfl)
  exact ⟨p, hp, (backfilled_iff (planWindow_one 0) hp).2⟩

/-- From half past twelve to half past one nothing is read, although a trip is there. -/
theorem halfPast_uncovered :
    ∃ p, planWindow (fun _ => "") 1 1800000000 (1800000000 + hourUs) =
        .ok ⟨1800000000, 1800000000 + hourUs, 1, 1⟩ ∧
      reprocessWindow plainCasts id quarterTable.select 1800000000 (1800000000 + hourUs)
        emptyStage = (p, .ok ()) ∧
      ¬Backfilled quarterTable ⟨1800000000, 1800000000 + hourUs, 1, 1⟩
        (Plan.result ⟨1800000000, 1800000000 + hourUs, 1, 1⟩ p) := by
  obtain ⟨p, hp⟩ := exists_run_one 1800000000 (Or.inr rfl)
  refine ⟨p, planWindow_one _, hp, fun h => ?_⟩
  have htrip : quarterTable.InWindow 1800000000 (1800000000 + hourUs) "nyc"
      { sampleRow "completed" 5 with eventTime := some 2700000000 } 2700000000 :=
    ⟨by decide, ⟨0, List.mem_singleton_self _⟩, rfl, by decide, by decide⟩
  obtain ⟨hour, hmem, heq⟩ := (mem_planRows_iff htrip).mp (h.covers _ _ _ htrip)
  dsimp only at hmem
  rw [hoursFrom_one, List.mem_singleton] at hmem
  rw [hmem] at heq
  exact absurd heq (by decide)

end TripPipeline.Rollup
