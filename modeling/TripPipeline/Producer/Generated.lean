import TripPipeline.Bench.Corpus
import TripPipeline.Common.Uuid
import TripPipeline.Lib.Calendar
import TripPipeline.Replay.DirectWrite
import TripPipeline.Replay.Verbatim
import TripPipeline.Streaming.Batch

/-!
# Generated events

All of `TripGenerator.next_event`: on top of the trip (`EventDraws`), the times, the ids as texts,
the events that come late and the fares that are left out on purpose.

* `Call.nextEvent`: the event, as it goes to `trips.raw`.
* `durationSec_mem`, `nowMs_mem`: the numbers stay within the integer columns of the stream, however
  long the trip.
* `fits_generated`: so every value has the type of its column, with or without a fare.
* `buildable_generated_iff`: what is read back of an event has statements iff the fare was not left
  out.
-/

namespace TripPipeline.Producer

open TripPipeline.Common TripPipeline.Lib
open TripPipeline.Bench (EventDraws Draw uniform zeroPad)
open TripPipeline.Replay (TripEvent Fits Readable withTime eventSchema inRange)
open TripPipeline.Streaming (Buildable fromTimestamp checkRange datetimeMin datetimeMax)
open TripPipeline.Common.Datetime (dayUs)

/-! ## The text of a time -/

/-- `event_dt.isoformat(timespec="milliseconds").replace("+00:00", "Z")`, for a time in
microseconds since the epoch. -/
def isoMillis (us : ℤ) : String :=
  let date := CivilDate.ofDay (us / dayUs)
  let pad width (n : ℤ) := zeroPad width n.toNat
  let second := us % dayUs / 1000000
  String.ofList (pad 4 date.year ++ '-' :: pad 2 date.month ++ '-' :: pad 2 date.day ++
    'T' :: pad 2 (second / 3600) ++ ':' :: pad 2 (second / 60 % 60) ++ ':' :: pad 2 (second % 60) ++
    '.' :: pad 3 (us % 1000000 / 1000) ++ ['Z'])

/-- The time the text has: it is cut to milliseconds. -/
def millis (us : ℤ) : ℤ := us - us % 1000

/-! ## A call of the generator -/

/-- The text of a UUID is not empty. -/
theorem uuidText_ne_empty {n : ℕ} (h : n < 2 ^ 128) : uuidText n ≠ "" := by
  intro hempty
  have hread := uuidOfText_uuidText h
  rw [hempty] at hread
  cases hread

/-- What a `TripGenerator` is made with. -/
structure GenConf where
  producerId : String
  lateEventRatio : ℚ
  lateEventMaxSec : ℤ
  malformedRatio : ℚ

/-- A call of `next_event`: the generator's configuration, the clock, and what the generators give
for the trip and besides. A `uuid4` has 128 bits. -/
structure Call extends EventDraws where
  conf : GenConf
  nowMs : ℤ
  late : Draw
  lateness : Draw
  lag : Draw
  malformed : Draw
  tripId_lt : tripId < 2 ^ 128
  eventId_lt : eventId < 2 ^ 128

namespace Call

variable (c : Call)

/-- The seconds the event is dated back: many for a late event, a few otherwise. -/
def backSec : ℚ :=
  if 0 < c.conf.lateEventRatio ∧ c.late.1 < c.conf.lateEventRatio then
    uniform 5 c.conf.lateEventMaxSec c.lateness
  else uniform 0 3 c.lag

/-- `event_dt`, in microseconds since the epoch; `none` when `datetime` raises. -/
def eventUs : Option ℤ :=
  match fromTimestamp (fl (fl c.nowMs / 1000)) with
  | .error _ => none
  | .ok us =>
      let us := us - secondsToMicros c.backSec
      if datetimeMin ≤ us ∧ us ≤ datetimeMax then some us else none

/-- The event is a poison pill: it has no fare. -/
def isMalformed : Bool :=
  decide (0 < c.conf.malformedRatio ∧ c.malformed.1 < c.conf.malformedRatio)

/-- The event of a call, when its time is `us`. -/
def eventAt (us : ℤ) : TripEvent where
  eventId := uuidText c.nextEvent.eventId
  tripId := uuidText c.nextEvent.tripId
  eventTime := isoMillis us
  producedAtMs := c.nowMs
  cityId := c.nextEvent.city.id
  driverId := c.nextEvent.driverId
  riderId := c.nextEvent.riderId
  pickupZoneId := c.nextEvent.pickupZoneId
  dropoffZoneId := c.nextEvent.dropoffZoneId
  vehicleClass := c.nextEvent.vehicleClass.text
  paymentType := c.nextEvent.paymentType.text
  distanceKm := c.nextEvent.distanceKm
  durationSec := c.nextEvent.durationSec
  fareAmount := if c.isMalformed then none else some c.nextEvent.fareAmount
  surgeMultiplier := c.nextEvent.surgeMultiplier
  status := c.nextEvent.status
  producerId := c.conf.producerId
  schemaVersion := 1
  tripId_ne := uuidText_ne_empty c.tripId_lt

/-- The event of a call; `none` when its time is beyond a `datetime`.
Source: `producer/events.py` `TripGenerator.next_event` -/
def published : Option TripEvent := c.eventUs.map c.eventAt

end Call

/-! ## Numbers stay in their columns -/

/-- A draw from a range of whole numbers is in the range. -/
theorem uniform_mem {a b : ℤ} (hab : a ≤ b) (ha : |a| < 2 ^ 53) (hb : |b| < 2 ^ 53)
    (hwidth : |b - a| < 2 ^ 53) (u : Draw) : (a : ℚ) ≤ uniform a b u ∧ uniform a b u ≤ b := by
  have hle : (a : ℚ) ≤ b := by exact_mod_cast hab
  have hfl : fl ((b : ℚ) - a) = b - a := by
    have h := fl_intCast hwidth
    push_cast at h
    exact h
  refine ⟨(fl_intCast ha).ge.trans (Bench.le_uniform hle u), ?_⟩
  have hpart : fl (((b : ℚ) - a) * u) ≤ b - a := by
    refine (fl_mono (mul_le_of_le_one_right (sub_nonneg.mpr hle) u.2.2.le)).trans hfl.le
  unfold uniform
  rw [hfl]
  refine (fl_mono ?_).trans (fl_intCast hb).le
  linarith

/-- The part of a cancelled trip that was driven. -/
theorem cut_mem (u : Draw) : 0 ≤ uniform (fl (5 / 100)) (fl (3 / 10)) u ∧
    uniform (fl (5 / 100)) (fl (3 / 10)) u ≤ 1 := by
  have hlow := fl_bounds (x := 5 / 100) (by norm_num)
  have hhigh := fl_bounds (x := 3 / 10) (by norm_num)
  have hwidth := fl_bounds (x := fl (3 / 10) - fl (5 / 100)) (by linarith)
  have hprod : 0 ≤ fl (fl (3 / 10) - fl (5 / 100)) * u := mul_nonneg (by linarith) u.2.1
  have hle : fl (fl (3 / 10) - fl (5 / 100)) * u ≤ fl (fl (3 / 10) - fl (5 / 100)) :=
    mul_le_of_le_one_right (by linarith) u.2.2.le
  have hpart := fl_bounds hprod
  have hsum := fl_bounds (x := fl (5 / 100) + fl (fl (fl (3 / 10) - fl (5 / 100)) * u))
    (by linarith)
  unfold uniform
  constructor <;> linarith

section duration

variable (d : EventDraws)

/-- The distance of an event is between 0 and 85 km. -/
theorem distanceKm_mem : 0 ≤ d.distanceKm ∧ d.distanceKm ≤ 85 := by
  have hlow : 0 ≤ min 85 (max (fl (4 / 10)) d.length) :=
    le_min (by norm_num) (le_max_of_le_left (fl_nonneg (by norm_num)))
  have hhigh : roundHalfEven (min 85 (max (fl (4 / 10)) d.length) * 10 ^ 3) ≤ 85000 := by
    rw [← roundHalfEven_intCast 85000]
    apply roundHalfEven_mono
    have := min_le_left 85 (max (fl (4 / 10)) d.length)
    push_cast
    linarith
  have hlow' : 0 ≤ roundHalfEven (min 85 (max (fl (4 / 10)) d.length) * 10 ^ 3) := by
    rw [← roundHalfEven_intCast 0]
    apply roundHalfEven_mono
    push_cast
    positivity
  have hcast : (roundHalfEven (min 85 (max (fl (4 / 10)) d.length) * 10 ^ 3) : ℚ) ≤ 85000 := by
    exact_mod_cast hhigh
  have hcast' : (0 : ℚ) ≤ roundHalfEven (min 85 (max (fl (4 / 10)) d.length) * 10 ^ 3) := by
    exact_mod_cast hlow'
  have h85 : fl 85 = 85 := fl_intCast (n := 85) (by norm_num)
  unfold EventDraws.distanceKm roundPlaces
  refine ⟨fl_nonneg (by positivity), (fl_mono ?_).trans h85.le⟩
  linarith

/-- A metered trip takes a minute to seven hours and some minutes. -/
theorem metered_mem : 60 ≤ d.metered ∧ d.metered ≤ 25440 := by
  have hspeed := (uniform_mem (a := 14) (b := 38) (by norm_num) (by norm_num) (by norm_num)
    (by norm_num) d.speed).1
  have hslack := (uniform_mem (a := -90) (b := 240) (by norm_num) (by norm_num) (by norm_num)
    (by norm_num) d.slack).2
  push_cast at hspeed hslack
  have hdistance := distanceKm_mem d
  have hhours : fl (d.distanceKm / uniform 14 38 d.speed) ≤ 7 := by
    refine (fl_mono ?_).trans (fl_intCast (n := 7) (by norm_num)).le
    rw [div_le_iff₀ (by linarith)]
    push_cast
    linarith
  have hseconds : fl (fl (d.distanceKm / uniform 14 38 d.speed) * 3600) ≤ 25200 := by
    refine (fl_mono ?_).trans (fl_intCast (n := 25200) (by norm_num)).le
    push_cast
    linarith
  have htotal : fl (fl (fl (d.distanceKm / uniform 14 38 d.speed) * 3600) +
      uniform (-90) 240 d.slack) ≤ 25440 := by
    refine (fl_mono ?_).trans (fl_intCast (n := 25440) (by norm_num)).le
    push_cast
    linarith
  unfold EventDraws.metered
  constructor
  · rw [← trunc_intCast 60]
    exact trunc_mono (le_max_left _ _)
  · rw [← trunc_intCast 25440]
    exact trunc_mono (max_le (by norm_num) (by exact_mod_cast htotal))

/-- **The duration is in the column's range**, cancelled or not. -/
theorem durationSec_mem : 0 ≤ d.nextEvent.durationSec ∧ d.nextEvent.durationSec ≤ 25440 := by
  obtain ⟨hlow, hhigh⟩ := metered_mem d
  unfold EventDraws.nextEvent
  dsimp only
  split_ifs
  · have hcut := cut_mem d.cut
    have hmetered : (0 : ℚ) ≤ d.metered := by exact_mod_cast (show (0 : ℤ) ≤ d.metered by omega)
    have hmetered' : (d.metered : ℚ) ≤ 25440 := by exact_mod_cast hhigh
    have hprod : d.metered * uniform (fl (5 / 100)) (fl (3 / 10)) d.cut ≤ 25440 :=
      (mul_le_of_le_one_right hmetered hcut.2).trans hmetered'
    constructor
    · rw [← trunc_intCast 0]
      exact trunc_mono (by exact_mod_cast fl_nonneg (mul_nonneg hmetered hcut.1))
    · rw [← trunc_intCast 25440]
      refine trunc_mono ((fl_mono hprod).trans ?_)
      exact (fl_intCast (n := 25440) (by norm_num)).le
  · exact ⟨by omega, hhigh⟩

end duration

variable {c : Call} {us : ℤ} {e : TripEvent}

/-- A `datetime` was made of the clock. -/
theorem clock_of_eventUs (h : c.eventUs = some us) :
    |secondsToMicros (fl (fl c.nowMs / 1000))| ≤ datetimeMax := by
  unfold Call.eventUs fromTimestamp checkRange at h
  split_ifs at h with hrange
  unfold datetimeMin datetimeMax at hrange
  rw [abs_le]
  unfold datetimeMax
  omega

/-- **The clock is in the column's range**: a `datetime` ends long before. -/
theorem nowMs_mem (h : c.eventUs = some us) : |c.nowMs| < 2 ^ 52 := by
  have hbound := clock_of_eventUs h
  -- the time of a clock that is out of range
  have hlarge : ∀ n : ℤ, 2 ^ 52 ≤ n → datetimeMax < secondsToMicros (fl (fl n / 1000)) := by
    intro n hn
    have hms : (4503599627370496 : ℚ) ≤ fl n := by
      refine (fl_intCast (n := 4503599627370496) (by norm_num)).ge.trans (fl_mono ?_)
      exact_mod_cast hn
    have hseconds : fl (4503599627370 : ℤ) ≤ fl (fl n / 1000) := by
      apply fl_mono
      push_cast
      linarith
    have hmicros := secondsToMicros_mono hseconds
    rw [fl_intCast (by norm_num), ← fl_intCast (n := 4503599627370) (by norm_num),
      secondsToMicros_intCast (by norm_num)] at hmicros
    unfold datetimeMax
    omega
  rw [abs_lt]
  rw [abs_le] at hbound
  constructor
  · by_contra hlow
    have hneg := hlarge (-c.nowMs) (by omega)
    push_cast at hneg
    rw [fl_neg, neg_div, fl_neg, secondsToMicros_neg] at hneg
    omega
  · by_contra hhigh
    have hpos := hlarge c.nowMs (by omega)
    omega

/-! ## What is read back -/

/-- The `float`s of an event. -/
def floatsOf (e : TripEvent) : List ℚ := e.distanceKm :: e.surgeMultiplier :: e.fareAmount.toList

/-- **An event whose `float`s are read back is read back as it was.** -/
theorem loads_event {floats : Floats} {other : PyVal → String}
    (h : ∀ x ∈ floatsOf e, readNumber floats (floats.repr x) = .float x) :
    (pyJson floats other).loads (e.text (pyJson floats other)) = some (.dict e.asDict) := by
  have hfloat : ∀ x ∈ floatsOf e, reread floats other (.float x) = .float x := h
  have hmap : (e.asDict.map fun kv => (kv.1, reread floats other kv.2)) = e.asDict := by
    refine (List.map_congr_left fun kv hkv => ?_).trans (List.map_id _)
    refine Prod.ext rfl ?_
    show reread floats other kv.2 = kv.2
    unfold TripEvent.asDict at hkv
    rcases List.mem_append.mp hkv with hkv | hkv
    · simp only [List.mem_cons, List.not_mem_nil, or_false] at hkv
      rcases hkv with rfl | rfl | rfl | rfl | rfl | rfl | rfl | rfl | rfl | rfl | rfl | rfl | rfl |
        rfl | rfl | rfl | rfl | rfl
      case inr.inr.inr.inr.inr.inr.inr.inr.inr.inr.inr.inr.inr.inl =>
        rcases hfare : e.fareAmount with _ | x
        · rfl
        · exact hfloat x (by simp [floatsOf, hfare])
      all_goals first
        | exact reread_str _
        | exact reread_int _
        | exact hfloat _ (by simp [floatsOf])
    · split_ifs at hkv
      · rw [List.mem_singleton.mp hkv]
        exact reread_str _
      · cases hkv
  rw [Replay.loads_text, hmap]

/-- The event of a call is one of its events. -/
theorem exists_eventAt (h : c.published = some e) :
    ∃ us, c.eventUs = some us ∧ e = c.eventAt us := by
  obtain ⟨us, hus, rfl⟩ := Option.map_eq_some_iff.mp h
  exact ⟨us, hus, rfl⟩

/-- A fare fits, and so does none. -/
theorem fits_fare (fare : Option ℚ) : Fits .double (.ofOption .float fare) := by
  rcases fare with _ | x
  · exact Or.inl rfl
  · exact Or.inr (Or.inl ⟨x, rfl⟩)

/-- **Every value has the type of its column.** -/
theorem fits_generated (h : c.published = some e) :
    ∀ col ∈ eventSchema, Fits col.2 (Dict.get e.asDict col.1) := by
  obtain ⟨us, hus, rfl⟩ := exists_eventAt h
  have hnow := abs_lt.mp (nowMs_mem hus)
  have hduration := durationSec_mem c.toEventDraws
  have hpickup := c.pickup.isLt
  have hdropoff := c.dropoff.isLt
  intro col hcol
  simp only [eventSchema, List.mem_cons, List.not_mem_nil, or_false] at hcol
  rcases hcol with rfl | rfl | rfl | rfl | rfl | rfl | rfl | rfl | rfl | rfl | rfl | rfl | rfl |
    rfl | rfl | rfl | rfl | rfl
  case inr.inr.inr.inl => exact Or.inr ⟨c.nowMs, rfl, by unfold inRange; omega⟩
  case inr.inr.inr.inr.inr.inr.inr.inl =>
    exact Or.inr ⟨c.pickup, rfl, by unfold inRange Bench.zonesPerCity at *; omega⟩
  case inr.inr.inr.inr.inr.inr.inr.inr.inl =>
    exact Or.inr ⟨c.dropoff, rfl, by unfold inRange Bench.zonesPerCity at *; omega⟩
  case inr.inr.inr.inr.inr.inr.inr.inr.inr.inr.inr.inr.inl =>
    exact Or.inr ⟨c.nextEvent.durationSec, rfl, by unfold inRange; omega⟩
  case inr.inr.inr.inr.inr.inr.inr.inr.inr.inr.inr.inr.inr.inl => exact fits_fare _
  case inr.inr.inr.inr.inr.inr.inr.inr.inr.inr.inr.inr.inr.inr.inr.inr.inr =>
    exact Or.inr ⟨1, rfl, by decide⟩
  all_goals first
    | exact Or.inr ⟨_, rfl⟩
    | exact Or.inr (Or.inl ⟨_, rfl⟩)

/-- The driver of an event has a name. -/
theorem driverId_ne_empty (d : EventDraws) : d.nextEvent.driverId ≠ "" := by
  intro hempty
  have hlist := congrArg String.toList hempty
  simp [EventDraws.nextEvent] at hlist

/-- A city has a name. -/
theorem cityId_ne_empty (city : Bench.City) : city.id ≠ "" := by
  cases city <;> decide

/-- A text that is not empty is not missing. -/
theorem isMissing_str {s : String} (h : s ≠ "") : (PyVal.str s).isMissing = false := by
  simpa [PyVal.isMissing] using h

/-- **What is read back of an event has statements iff it has a fare.** -/
theorem buildable_generated_iff (h : c.published = some e) (t : Datetime) :
    Buildable (withTime e.asDict t) ↔ c.isMalformed = false := by
  obtain ⟨us, -, rfl⟩ := exists_eventAt h
  have hfare : Dict.get (withTime (c.eventAt us).asDict t) "fare_amount" =
      .ofOption .float (if c.isMalformed then none else some c.nextEvent.fareAmount) := by
    rw [Replay.get_withTime (by decide)]
    rfl
  constructor
  · intro hbuild
    by_contra hmalformed
    have hvalid := hbuild.valid.fare
    rw [hfare, if_pos (by simpa using hmalformed)] at hvalid
    cases hvalid
  · intro hmalformed
    have hlookup : ∀ k ≠ "event_time", (withTime (c.eventAt us).asDict t).lookup k =
        (c.eventAt us).asDict.lookup k := fun k hk => by rw [Replay.lookup_withTime, if_neg hk]
    refine ⟨⟨?_, ?_, ?_⟩, ?_, ?_, ⟨t, Replay.lookup_withTime "event_time"⟩, ?_⟩
    · intro field hfield
      simp only [Streaming.requiredFields, List.mem_cons, List.not_mem_nil, or_false] at hfield
      rcases hfield with rfl | rfl | rfl | rfl | rfl
      · exact isMissing_str (uuidText_ne_empty c.eventId_lt)
      · exact isMissing_str (uuidText_ne_empty c.tripId_lt)
      · rw [Replay.get_of_lookup (Replay.lookup_withTime "event_time")]
        rfl
      · rw [Dict.get, hlookup _ (by decide)]
        exact isMissing_str (cityId_ne_empty c.city)
      · rw [Dict.get, hlookup _ (by decide)]
        exact isMissing_str (driverId_ne_empty c.toEventDraws)
    · rw [hfare, if_neg (by simpa using hmalformed)]
      rfl
    · rw [Replay.get_withTime (by decide)]
      rfl
    · exact ⟨uuidText c.tripId, c.tripId, hlookup _ (by decide), uuidOfText_uuidText c.tripId_lt⟩
    · exact ⟨uuidText c.eventId, c.eventId, hlookup _ (by decide),
        uuidOfText_uuidText c.eventId_lt⟩
    · intro field hfield
      simp only [Streaming.rowFields, List.mem_cons, List.not_mem_nil, or_false] at hfield
      rcases hfield with rfl | rfl | rfl | rfl | rfl | rfl | rfl | rfl | rfl | rfl | rfl | rfl |
        rfl | rfl | rfl
      all_goals exact ⟨_, hlookup _ (by decide)⟩

end TripPipeline.Producer
