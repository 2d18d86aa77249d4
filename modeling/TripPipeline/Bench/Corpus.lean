import TripPipeline.Common.PyJson
import TripPipeline.Lib.Binary64

/-!
# The events of the corpus

`TripGenerator.next_event` of `producer/events.py`, as far as `bench/load_analytics.py` reads its
events. What a `random.Random` gives is a parameter (`EventDraws`): every draw is any element of the
list or any number of the range it is asked for. A `float` is the rational it denotes.

The loader takes a generator without late and malformed events, and gives each event a time of its
own.

* `surge_eq_one_or_ge`: a trip is billed at the base fare or well above it.
* `one_lt_single_iff`: so the column of type `real` tells surged trips apart as the `float` does.
-/

namespace TripPipeline.Bench

open TripPipeline.Common TripPipeline.Lib

/-! ## What there is to choose from -/

/-- `CITIES`. -/
inductive City where
  | nyc | chi | sfo | lax | bos | sea | aus | mia
  deriving DecidableEq, Repr

/-- `VEHICLE_CLASSES`. -/
inductive VehicleClass where
  | economy | comfort | xl | black
  deriving DecidableEq, Repr

/-- `PAYMENT_TYPES`. -/
inductive PaymentType where
  | card | wallet | cash
  deriving DecidableEq, Repr

/-- `CITY_IDS`. -/
def cityIds : List City := [.nyc, .chi, .sfo, .lax, .bos, .sea, .aus, .mia]

/-- `VEHICLE_CLASSES`. -/
def vehicleClasses : List VehicleClass := [.economy, .comfort, .xl, .black]

/-- `PAYMENT_TYPES`. -/
def paymentTypes : List PaymentType := [.card, .wallet, .cash]

/-- `N_DRIVERS`. -/
def nDrivers : ℕ := 5000

/-- `N_RIDERS`. -/
def nRiders : ℕ := 50000

/-- `ZONES_PER_CITY`. -/
def zonesPerCity : ℕ := 40

/-- The id of a city. -/
def City.id : City → String
  | nyc => "nyc"
  | chi => "chi"
  | sfo => "sfo"
  | lax => "lax"
  | bos => "bos"
  | sea => "sea"
  | aus => "aus"
  | mia => "mia"

/-- The text of a vehicle class. -/
def VehicleClass.text : VehicleClass → String
  | economy => "economy"
  | comfort => "comfort"
  | xl => "xl"
  | black => "black"

/-- The text of a payment type. -/
def PaymentType.text : PaymentType → String
  | card => "card"
  | wallet => "wallet"
  | cash => "cash"

/-- `VEHICLE_PRICING`: base fare, rate for a kilometre, rate for a minute. -/
def VehicleClass.pricing : VehicleClass → ℚ × ℚ × ℚ
  | economy => (fl (250 / 100), fl (110 / 100), fl (22 / 100))
  | comfort => (fl (350 / 100), fl (155 / 100), fl (30 / 100))
  | xl => (fl (425 / 100), fl (185 / 100), fl (36 / 100))
  | black => (fl (700 / 100), fl (310 / 100), fl (55 / 100))

/-! ## An event -/

/-- `rng.random()`. -/
abbrev Draw := {u : ℚ // 0 ≤ u ∧ u < 1}

/-- `rng.uniform(a, b)`. -/
def uniform (a b : ℚ) (u : Draw) : ℚ := fl (a + fl (fl (b - a) * u))

/-- What the generators give for one event. -/
structure EventDraws where
  city : City
  vclass : VehicleClass
  /-- `rng.lognormvariate(1.05, 0.75)`. -/
  length : ℚ
  speed : Draw
  slack : Draw
  surged : Draw
  surge : Draw
  cancelled : Draw
  /-- `rng.choice([0.0, 5.0])`. -/
  billed : Bool
  cut : Draw
  tripId : ℕ
  eventId : ℕ
  driver : Fin nDrivers
  rider : Fin nRiders
  pickup : Fin zonesPerCity
  dropoff : Fin zonesPerCity
  payment : PaymentType

/-- The digits of `n`, with zeros before them up to a width. -/
def zeroPad (width n : ℕ) : List Char :=
  List.replicate (width - (natText n).length) '0' ++ natText n

/-- Padding with zeros does not change the number a text reads as. -/
@[simp] theorem decimal_zeroPad (width n : ℕ) : decimal (zeroPad width n) = n := by
  have hzeros : decimal (zeroPad width n) = decimal (natText n) := by
    simp [decimal, zeroPad, Nat.ofDigits_append_replicate_zero]
  rw [hzeros, decimal_natText]

/-- A padded number is digits only. -/
theorem zeroPad_isDigit (width n : ℕ) : ∀ c ∈ zeroPad width n, c.isDigit = true := by
  intro c hc
  rcases List.mem_append.mp hc with hzero | hdigit
  · rw [List.eq_of_mem_replicate hzero]
    rfl
  · exact natText_isDigit n c hdigit

/-- An event, with the fields the loader reads. -/
structure Event where
  tripId : ℕ
  eventId : ℕ
  city : City
  driverId : String
  riderId : String
  pickupZoneId : ℤ
  dropoffZoneId : ℤ
  vehicleClass : VehicleClass
  paymentType : PaymentType
  distanceKm : ℚ
  durationSec : ℤ
  fareAmount : ℚ
  surgeMultiplier : ℚ
  status : String

namespace EventDraws

variable (d : EventDraws)

/-- `distance_km`. -/
def distanceKm : ℚ := roundPlaces 3 (min 85 (max (fl (4 / 10)) d.length))

/-- `duration_sec` of a trip that is not cancelled. -/
def metered : ℤ :=
  trunc (max 60 (fl (fl (fl (d.distanceKm / uniform 14 38 d.speed) * 3600) +
    uniform (-90) 240 d.slack)))

/-- `surge`. -/
def surgeMultiplier : ℚ :=
  if d.surged.1 < fl (18 / 100) then roundPlaces 2 (uniform (fl (12 / 10)) 3 d.surge) else 1

/-- `fare` of a trip that is not cancelled. -/
def fare : ℚ :=
  let (base, perKm, perMin) := d.vclass.pricing
  let fare := fl (fl (fl (base + fl (d.distanceKm * perKm)) + fl (fl (d.metered / 60) * perMin)) *
    d.surgeMultiplier)
  roundPlaces 2 (max 3 fare)

/-- `cancelled`. -/
def isCancelled : Bool := d.cancelled.1 < fl (55 / 1000)

/-- Source: `producer/events.py` `TripGenerator.next_event` -/
def nextEvent : Event where
  tripId := d.tripId
  eventId := d.eventId
  city := d.city
  driverId := "d-" ++ String.ofList (zeroPad 6 d.driver)
  riderId := "r-" ++ String.ofList (zeroPad 6 d.rider)
  pickupZoneId := d.pickup
  dropoffZoneId := d.dropoff
  vehicleClass := d.vclass
  paymentType := d.payment
  distanceKm := d.distanceKm
  durationSec :=
    if d.isCancelled then trunc (fl (d.metered * uniform (fl (5 / 100)) (fl (3 / 10)) d.cut))
    else d.metered
  fareAmount := if d.isCancelled then roundPlaces 2 (if d.billed then 5 else 0) else d.fare
  surgeMultiplier := d.surgeMultiplier
  status := if d.isCancelled then "cancelled" else "completed"

end EventDraws

/-! ## Surges -/

/-- A draw from a range is not below it, but for rounding. -/
theorem le_uniform {a b : ℚ} (hab : a ≤ b) (u : Draw) : fl a ≤ uniform a b u := by
  have hwidth : 0 ≤ fl (b - a) := fl_nonneg (sub_nonneg.mpr hab)
  have hstep : 0 ≤ fl (fl (b - a) * u) := fl_nonneg (mul_nonneg hwidth u.2.1)
  apply fl_mono
  linarith

/-- **A trip is surged by a sixth at least**, or not at all. -/
theorem surge_eq_one_or_ge (d : EventDraws) :
    d.surgeMultiplier = 1 ∨ 118 / 100 ≤ d.surgeMultiplier := by
  unfold EventDraws.surgeMultiplier
  split_ifs
  · right
    have hlow : (12 / 10 : ℚ) * (1 - 1 / 2 ^ 53) ≤ fl (12 / 10) := (fl_bounds (by norm_num)).1
    have hhigh : fl (12 / 10) ≤ 12 / 10 * (1 + 1 / 2 ^ 53) := (fl_bounds (by norm_num)).2
    have hlow' : fl (12 / 10) * (1 - 1 / 2 ^ 53) ≤ fl (fl (12 / 10)) :=
      (fl_bounds (by linarith)).1
    have huniform : fl (fl (12 / 10)) ≤ uniform (fl (12 / 10)) 3 d.surge :=
      le_uniform (by linarith) d.surge
    have hround : (119 : ℤ) ≤ roundHalfEven (uniform (fl (12 / 10)) 3 d.surge * 10 ^ 2) := by
      rw [← roundHalfEven_intCast 119]
      apply roundHalfEven_mono
      push_cast
      linarith
    have hcents : (119 : ℚ) ≤ roundHalfEven (uniform (fl (12 / 10)) 3 d.surge * 10 ^ 2) := by
      exact_mod_cast hround
    have hplaces := (fl_bounds (x := roundHalfEven (uniform (fl (12 / 10)) 3 d.surge * 10 ^ 2) /
      10 ^ 2) (by positivity)).1
    unfold roundPlaces
    linarith
  · exact Or.inl rfl

/-- **The column of type `real` tells surged trips apart.** The text between the `float` and the
column is the shortest that denotes the `float`. -/
theorem one_lt_single_iff (d : EventDraws) :
    1 < flSingle (shortest d.surgeMultiplier) ↔ 1 < d.surgeMultiplier := by
  rcases surge_eq_one_or_ge d with h | h
  · rw [h]
    simp
  · have hshortest := shortest_ge (show 0 < d.surgeMultiplier by linarith)
    have hge : 117 / 100 ≤ shortest d.surgeMultiplier := by linarith
    have hclose := abs_le.mp (abs_flSingle_sub_le (show 0 < shortest d.surgeMultiplier by linarith))
    exact iff_of_true (by linarith [hclose.1]) (by linarith)

end TripPipeline.Bench
