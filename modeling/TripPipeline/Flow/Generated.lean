import TripPipeline.Flow.Recovery
import TripPipeline.Producer.Generated

/-!
# From the generator to the tables

What comes from outside is now what `TripGenerator.next_event` makes, late events, duplicates and
poison pills included. The assumptions the other results make of their events hold of these, given
that the readers of the payload do what they document (`ReadsEvents`), so the results are about the
generator's own events.

* `lawful_generated`: generated events are lawful; `sound_generated`: they are sound but for the
  poison pills, which neither path writes (`buildable_eventRow_iff`).
* `factRow_generated`: the row of an event, column by column, in terms of the call.
* `generated_reach_tables`: the result, for every reachable state and after a recovery.
-/

namespace TripPipeline.Flow

open TripPipeline.Common TripPipeline.Lib TripPipeline.Producer
open TripPipeline.Streaming TripPipeline.Replay TripPipeline.Serving
open PipelineState (values)

/-! ## What is assumed of the readers -/

/-- The texts of the events of some calls. -/
def textsOf (d : Deployment) (calls : Set Call) : Set String :=
  {text | ∃ c ∈ calls, ∃ us, c.eventUs = some us ∧ text = (c.eventAt us).text d.codec}

/-- What is assumed of the readers of the payload, for the events of some calls, and of `uuid4`. -/
structure ReadsEvents (d : Deployment) (calls : Set Call) : Prop where
  documented : Documented d.spark d.codec d.fromIsoFormat
  empty : d.spark.fromJson "" = none
  tables : d.conf.sink.tables = allTables
  /-- `json` reads a `float` back as it was. -/
  codec : ∃ floats other, d.codec = pyJson floats other ∧ ∀ c ∈ calls, ∀ us, c.eventUs = some us →
    ∀ x ∈ floatsOf (c.eventAt us), readNumber floats (floats.repr x) = .float x
  /-- `from_json` parses the object. -/
  parses : ∀ c ∈ calls, ∀ us, c.eventUs = some us →
    (d.spark.fromJson ((c.eventAt us).text d.codec)).isSome
  toTimestamp : ∀ c ∈ calls, ∀ us, c.eventUs = some us →
    d.spark.toTimestamp (isoMillis us) = some (millis us)
  fromIsoFormat : ∀ c ∈ calls, ∀ us, c.eventUs = some us →
    d.fromIsoFormat (replaceZ (isoMillis us)) = some ⟨millis us, some 0⟩
  /-- No trip id is given twice. -/
  trips : ∀ c ∈ calls, ∀ c' ∈ calls, c.tripId = c'.tripId → c = c'

variable {d : Deployment} {calls : Set Call} {s : PipelineState} {c : Call} {us : ℤ}

/-! ## What the readers see -/

section reads

variable (hreads : ReadsEvents d calls) (hc : c ∈ calls) (hus : c.eventUs = some us)

include hreads hc hus

/-- The text of a generated event loads as its dict. -/
theorem loads_generated :
    d.codec.loads ((c.eventAt us).text d.codec) = some (.dict (c.eventAt us).asDict) := by
  obtain ⟨floats, other, hcodec, hfloats⟩ := hreads.codec
  rw [hcodec]
  exact loads_event (hfloats c hc us hus)

/-- The drain reads the event and its time. -/
theorem readable_generated : Readable d.codec d.fromIsoFormat ((c.eventAt us).text d.codec)
    (c.eventAt us).asDict ⟨millis us, some 0⟩ :=
  ⟨loads_generated hreads hc hus, isoMillis us, rfl, hreads.fromIsoFormat c hc us hus⟩

/-- It reads nothing else. -/
theorem readable_generated_iff {kvs : Dict} {dt : Datetime} :
    Readable d.codec d.fromIsoFormat ((c.eventAt us).text d.codec) kvs dt ↔
      kvs = (c.eventAt us).asDict ∧ dt = ⟨millis us, some 0⟩ := by
  refine ⟨?_, ?_⟩
  · rintro ⟨hloads, t, ht, hiso⟩
    rw [loads_generated hreads hc hus] at hloads
    obtain rfl := PyVal.dict.inj (Option.some.inj hloads)
    obtain rfl : isoMillis us = t := PyVal.str.inj (Option.some.inj ht)
    rw [hreads.fromIsoFormat c hc us hus] at hiso
    exact ⟨rfl, (Option.some.inj hiso).symm⟩
  · rintro ⟨rfl, rfl⟩
    exact readable_generated hreads hc hus

/-- The stream job reads the event and its time. -/
theorem parsed_generated : ∃ ev, d.spark.fromJson ((c.eventAt us).text d.codec) = some ev ∧
    ev.eventTime.bind d.spark.toTimestamp = some (millis us) := by
  obtain ⟨ev, hev⟩ := Option.isSome_iff_exists.mp (hreads.parses c hc us hus)
  refine ⟨ev, hev, ?_⟩
  have hcolumn : PyVal.ofOption PyVal.str ev.eventTime = .str (isoMillis us) :=
    (hreads.documented.columns _ _ _ (loads_generated hreads hc hus) hev ("event_time", .string)
      (by decide)).of_str rfl
  rcases htime : ev.eventTime with _ | t
  · rw [htime] at hcolumn
    cases hcolumn
  · rw [htime] at hcolumn
    obtain rfl := PyVal.str.inj hcolumn
    exact hreads.toTimestamp c hc us hus

/-- The row of the stream has what the payload has, up to how a number is spelt. -/
theorem same_eventRow {f : String} {ty : ColumnType} (hf : (f, ty) ∈ eventSchema)
    (hne : f ≠ "event_time") :
    ∃ w, (eventRow d ((c.eventAt us).text d.codec)).lookup f = some w ∧
      FromJson ty (Dict.get (c.eventAt us).asDict f) w ∧
      Same w (Dict.get (c.eventAt us).asDict f) := by
  obtain ⟨ev, hev, htime⟩ := parsed_generated hreads hc hus
  have hcolumn := hreads.documented.columns _ _ _ (loads_generated hreads hc hus) hev _ hf
  have hfits := fits_generated (c := c) (e := c.eventAt us) (by simp [Call.published, hus]) _ hf
  exact ⟨_, lookup_asDict (source_event rfl hev htime) _ hf hne, hcolumn,
    (same_iff_fits hcolumn).mpr hfits⟩

/-- Its time. -/
theorem time_eventRow : (eventRow d ((c.eventAt us).text d.codec)).lookup "event_time" =
    some (.datetime (StreamRow.naiveUtc (millis us))) := by
  obtain ⟨ev, hev, htime⟩ := parsed_generated hreads hc hus
  exact lookup_asDict_time (source_event rfl hev htime)

/-- A text of the event. -/
theorem text_eventRow {f t : String} (hf : (f, ColumnType.string) ∈ eventSchema)
    (hne : f ≠ "event_time") (ht : Dict.get (c.eventAt us).asDict f = .str t) :
    (eventRow d ((c.eventAt us).text d.codec)).lookup f = some (.str t) := by
  obtain ⟨w, hw, hcolumn, -⟩ := same_eventRow hreads hc hus hf hne
  rw [hw, hcolumn.of_str ht]

/-- Its trip. -/
theorem trip_eventRow :
    tripOf (eventRow d ((c.eventAt us).text d.codec)) = some c.tripId := by
  rw [tripOf, uuidField, text_eventRow hreads hc hus (f := "trip_id") (by decide) (by decide) rfl]
  exact uuidOfText_uuidText c.tripId_lt

/-- **An event has statements iff it is not a poison pill**, on the path of the stream. -/
theorem buildable_eventRow_iff :
    Buildable (eventRow d ((c.eventAt us).text d.codec)) ↔ c.isMalformed = false := by
  have hpublished : c.published = some (c.eventAt us) := by simp [Call.published, hus]
  constructor
  · intro hbuild
    by_contra hmalformed
    have hfield : ("fare_amount", ColumnType.double) ∈ eventSchema := by decide
    obtain ⟨w, hw, hcolumn, -⟩ := same_eventRow hreads hc hus hfield (by decide)
    have hnone : Dict.get (c.eventAt us).asDict "fare_amount" = .none := by
      show PyVal.ofOption .float (if c.isMalformed then none else some c.nextEvent.fareAmount) = _
      rw [if_pos (by simpa using hmalformed)]
      rfl
    have hfare := hbuild.valid.fare
    rw [get_of_lookup hw] at hfare
    rw [hnone] at hcolumn
    rw [(hcolumn.of_fits (Or.inl rfl)).2] at hfare
    cases hfare
  · intro hwell
    obtain ⟨ev, hev, htime⟩ := parsed_generated hreads hc hus
    exact buildable_asDict hreads.documented (readable_generated hreads hc hus) hev
      (source_event rfl hev htime)
      ((buildable_generated_iff hpublished _).mpr hwell) (fits_generated hpublished)

end reads

/-! ## Generated events are lawful -/

/-- **What the other results assume holds of generated events.** -/
theorem lawful_generated (hreads : ReadsEvents d calls) : Lawful d (textsOf d calls) where
  documented := hreads.documented
  empty := hreads.empty
  tables := hreads.tables
  uniform := by
    rintro text ⟨c, hc, us, hus, rfl⟩ kvs dt hread
    obtain ⟨rfl, rfl⟩ := (readable_generated_iff hreads hc hus).mp hread
    refine ⟨fits_generated (c := c) (by simp [Call.published, hus]), dvd_zero _, ?_⟩
    simp [Datetime.date, Datetime.instant]
  oneEvent := by
    rintro text ⟨c, hc, us, hus, rfl⟩ text' ⟨c', hc', us', hus', rfl⟩ u hu hu'
    rw [trip_eventRow hreads hc hus] at hu
    rw [trip_eventRow hreads hc' hus'] at hu'
    obtain rfl := hreads.trips c hc c' hc' (Option.some.inj (hu.trans hu'.symm))
    obtain rfl := Option.some.inj (hus.symm.trans hus')
    exact fun f _ => rfl

/-- An event with a fare is sound. -/
theorem sound_generated (hreads : ReadsEvents d calls) (hc : c ∈ calls) (hus : c.eventUs = some us)
    (hwell : c.isMalformed = false) : Sound d ((c.eventAt us).text d.codec) where
  spark := by
    obtain ⟨ev, hev, htime⟩ := parsed_generated hreads hc hus
    exact ⟨ev, millis us, hev, htime⟩
  python := ⟨_, _, readable_generated hreads hc hus,
    (buildable_generated_iff (by simp [Call.published, hus]) _).mpr hwell⟩

/-! ## The row of an event -/

/-- What a column has of the event of a call. -/
def generatedCell (c : Call) (us : ℤ) : String → PyVal
  | "trip_id" => .uuid c.tripId
  | "event_id" => .uuid c.eventId
  | "event_time" => .datetime ⟨millis us, some 0⟩
  | "event_date" => .date (millis us / Datetime.dayUs)
  | "event_hour" => .datetime ⟨millis us - millis us % Datetime.hourUs, some 0⟩
  | field => cell (Dict.get (c.eventAt us).asDict field)

/-- The key of the event of a call. -/
def generatedKey (c : Call) (us : ℤ) (t : Table) : List PyVal :=
  (primaryKey t).map (generatedCell c us)

/-- The row of the event of a call. -/
def generatedRow (c : Call) (us : ℤ) (t : Table) : Dict :=
  ((columns t).filter (· ≠ "ingested_at_ms")).map fun f => (f, generatedCell c us f)

/-- The columns of the tables, but for the write time. -/
def columnFields : List String :=
  "trip_id" :: "event_id" :: "event_time" :: "event_date" :: "event_hour" :: rowFields

/-- A column that is not the write time is among `columnFields`. -/
theorem mem_columnFields {t : Table} {f : String} (hf : f ∈ columns t)
    (hne : f ≠ "ingested_at_ms") : f ∈ columnFields := by
  revert f
  cases t <;> decide

/-- A datetime in UTC is stored as it is. -/
theorem cell_utc (us : ℤ) : cell (.datetime ⟨us, some 0⟩) = .datetime ⟨us, some 0⟩ := by
  simp [cell, Datetime.instant]

section row

variable (hreads : ReadsEvents d calls) (hc : c ∈ calls) (hus : c.eventUs = some us)

include hreads hc hus

/-- **A column has what the generator drew.** -/
theorem cell_generated {f : String} (hf : f ∈ columnFields) :
    cell (fieldOf (eventRow d ((c.eventAt us).text d.codec)) f) = generatedCell c us f := by
  have htime : utcMicros (eventRow d ((c.eventAt us).text d.codec)) = some (millis us) := by
    rw [utcMicros, time_eventRow hreads hc hus]
    rfl
  have hevent : uuidField (eventRow d ((c.eventAt us).text d.codec)) "event_id" =
      some c.eventId := by
    rw [uuidField, text_eventRow hreads hc hus (f := "event_id") (by decide) (by decide) rfl]
    exact uuidOfText_uuidText c.eventId_lt
  have hother : ∀ f ∈ rowFields, cell (Dict.get (eventRow d ((c.eventAt us).text d.codec)) f) =
      cell (Dict.get (c.eventAt us).asDict f) := by
    intro f hf
    obtain ⟨col, hcol, rfl, hne⟩ : ∃ col ∈ eventSchema, col.1 = f ∧ col.1 ≠ "event_time" := by
      revert f
      decide
    obtain ⟨w, hw, -, hsame⟩ := same_eventRow hreads hc hus hcol hne
    rw [get_of_lookup hw, cell_eq_of_same hsame]
  simp only [columnFields, List.mem_cons] at hf
  rcases hf with rfl | rfl | rfl | rfl | rfl | hf
  · rw [fieldOf, trip_eventRow hreads hc hus]
    rfl
  · rw [fieldOf, hevent]
    rfl
  · rw [fieldOf, htime]
    exact cell_utc _
  · rw [fieldOf, htime]
    rfl
  · rw [fieldOf, htime]
    exact cell_utc _
  · have hcell := hother f hf
    simp only [rowFields, List.mem_cons, List.not_mem_nil, or_false] at hf
    rcases hf with rfl | rfl | rfl | rfl | rfl | rfl | rfl | rfl | rfl | rfl | rfl | rfl | rfl |
      rfl | rfl
    all_goals exact hcell

/-- **The row of an event is the row of its call.** -/
theorem factRow_generated (t : Table) :
    factKey d ((c.eventAt us).text d.codec) t = generatedKey c us t ∧
      factRow d ((c.eventAt us).text d.codec) t = generatedRow c us t := by
  constructor
  · refine List.map_congr_left fun f hf => cell_generated hreads hc hus ?_
    obtain ⟨hcolumn, hne⟩ := mem_columns_of_mem_primaryKey hf
    exact mem_columnFields hcolumn hne
  · refine List.map_congr_left fun f hf => ?_
    obtain ⟨hcolumn, hne⟩ := List.mem_filter.mp hf
    rw [cell_generated hreads hc hus (mem_columnFields hcolumn (by simpa using hne))]

end row

/-- The row of a call is about the trip of the call. -/
@[simp] theorem trip_of_generatedRow (c : Call) (us : ℤ) (t : Table) :
    Dict.get (generatedRow c us t) "trip_id" = .uuid c.tripId := by
  cases t <;> rfl

/-! ## The tables -/

/-- **A visible row is the row of a call**, and not of a poison pill. -/
theorem generated_of_visible (hreads : ReadsEvents d calls) (h : RunsIn d (textsOf d calls) s)
    {t : Table} {k : List PyVal} {row : Dict} (hk : visible s (t, k) = some row) :
    ∃ c ∈ calls, ∃ us, c.eventUs = some us ∧ c.isMalformed = false ∧
      k = generatedKey c us t ∧ row = generatedRow c us t := by
  obtain ⟨text, ⟨c, hc, us, hus, rfl⟩, hbuild, hkey, hrow⟩ :=
    facts_of_visible (lawful_generated hreads) h hk
  obtain ⟨hkeys, hrows⟩ := factRow_generated hreads hc hus t
  exact ⟨c, hc, us, hus, (buildable_eventRow_iff hreads hc hus).mp hbuild, hkey.trans hkeys,
    hrow.trans hrows⟩

/-- **A poison pill that is not to be read any more is on the DLQ topic.** -/
theorem quarantined_of_malformed (hreads : ReadsEvents d calls)
    (hpolicy : d.conf.latePolicy = "dlq" ∨ d.conf.latePolicy = "process")
    (h : RunsIn d (textsOf d calls) s) (hpending : s.pending = []) (hc : c ∈ calls)
    (hus : c.eventUs = some us) {m : KafkaMessage} (hm : m ∈ s.raw)
    (hvalue : m.value = some ((c.eventAt us).text d.codec)) (hmalformed : c.isMalformed = true) :
    ∃ e, s.OnDlq e ∧ e.lookup "original_payload" = some (.str ((c.eventAt us).text d.codec)) := by
  obtain ⟨ev, hev, htime⟩ := parsed_generated hreads hc hus
  rcases settled_or_pending hpolicy h.runs.1 hm with hwait | hwritten | ⟨e, he, henv⟩ | hskip
  · rw [hpending] at hwait
    cases hwait
  · rw [hreads.tables] at hwritten
    have hwell := (buildable_eventRow_iff hreads hc hus).mp (buildable_of_written hvalue hwritten)
    exact absurd (hmalformed.symm.trans hwell) Bool.true_eq_false_eq_False
  · refine ⟨e, he, henv.payload _ hvalue fun hempty => ?_⟩
    rw [hempty, hreads.empty] at hev
    cases hev
  · have hnone := hskip.2.2
    rw [source_event hvalue hev htime] at hnone
    cases hnone

/-- **From the generator to the tables**: every row a reader sees, in any state, is the row of a
call whose fare was not left out. And after a drain, a new start and a batch without trouble, a trip
that was published has exactly its row in every table, or, if it is a poison pill, no row and its
text on the DLQ topic. -/
theorem generated_reach_tables (hreads : ReadsEvents d calls)
    (hpolicy : d.conf.latePolicy = "dlq" ∨ d.conf.latePolicy = "process")
    (h : RunsIn d (textsOf d calls) s) :
    (∀ t k row, visible s (t, k) = some row → ∃ c ∈ calls, ∃ us, c.eventUs = some us ∧
        c.isMalformed = false ∧ k = generatedKey c us t ∧ row = generatedRow c us t) ∧
      ∀ args env, HealthyDrain d s.dlq args env → ∃ run, drain args env (values s.dlq) = .ok run ∧
        ∀ sent : List KafkaMessage,
          sent.map KafkaMessage.value = (run.produced.map fun p => some p.value) →
            ∀ batch benv out, batch.rows.Perm ((s.pending ++ sent).map (source d.spark)) →
              benv.Forall SinkEnv.Healthy → processBatch d.conf benv none batch = .ok out →
                let s' := ((s.drained run sent).advance none (s.pending ++ sent)).batched out
                ∀ m ∈ s'.raw, ∀ text, m.value = some text → ∃ c ∈ calls, ∃ us,
                  c.eventUs = some us ∧ text = (c.eventAt us).text d.codec ∧
                    (∀ t k row, visible s' (t, k) = some row ∧
                        Dict.get row "trip_id" = .uuid c.tripId ↔
                      c.isMalformed = false ∧ k = generatedKey c us t ∧
                        row = generatedRow c us t) ∧
                    (c.isMalformed = true → ∃ e, s'.OnDlq e ∧
                      e.lookup "original_payload" = some (.str text)) := by
  have hlawful := lawful_generated hreads
  refine ⟨fun t k row hk => generated_of_visible hreads h hk, ?_⟩
  intro args env hhealthy
  obtain ⟨run, hrun, hall⟩ := exists_healthy_drain hhealthy (runs_traced hlawful.empty h.runs.1)
  refine ⟨run, hrun, fun sent hsent batch benv out hrows hbenv hout => ?_⟩
  intro s' m hm text hvalue
  have hreach : RunsIn d (textsOf d calls) s' := runsIn_recovered h hhealthy hrun hsent hrows hout
  obtain ⟨c, hc, us, hus, rfl⟩ : text ∈ textsOf d calls :=
    hreach.runs.2 text ((runs_traced hlawful.empty hreach.runs.1).raw m hm text hvalue)
  refine ⟨c, hc, us, hus, rfl, ?_, quarantined_of_malformed hreads hpolicy hreach rfl hc hus hm
    hvalue⟩
  intro t k row
  constructor
  · rintro ⟨hk, htrip⟩
    obtain ⟨c', hc', us', hus', hwell, rfl, rfl⟩ := generated_of_visible hreads hreach hk
    rw [trip_of_generatedRow] at htrip
    obtain rfl := hreads.trips c' hc' c hc (PyVal.uuid.inj htrip)
    obtain rfl := Option.some.inj (hus'.symm.trans hus)
    exact ⟨hwell, rfl, rfl⟩
  · rintro ⟨hwell, rfl, rfl⟩
    refine ⟨?_, trip_of_generatedRow c us t⟩
    obtain ⟨hkey, hrow⟩ := factRow_generated hreads hc hus t
    rw [← hkey, ← hrow]
    exact visible_recovered hlawful hpolicy h hhealthy hrun hall hsent hrows hbenv hout hm hvalue
      (sound_generated hreads hc hus hwell) t

/-! ## One call -/

/-- A draw of one half is a draw of `random()`. -/
theorem half_mem : (0 : ℚ) ≤ 1 / 2 ∧ (1 / 2 : ℚ) < 1 := by norm_num

/-- A draw of one half. -/
def half : Bench.Draw := ⟨1 / 2, half_mem⟩

/-- A draw of zero. -/
def zeroDraw : Bench.Draw := ⟨0, le_rfl, one_pos⟩

/-- The trip id of the sample call fits in 128 bits. -/
theorem tripId_lt_sample : 2 < 2 ^ 128 := by norm_num

/-- The event id of the sample call fits in 128 bits. -/
theorem eventId_lt_sample : 1 < 2 ^ 128 := by norm_num

/-- The driver of the sample call is a driver. -/
theorem driver_lt_sample : 1 < Bench.nDrivers := by decide

/-- The rider of the sample call is a rider. -/
theorem rider_lt_sample : 1 < Bench.nRiders := by decide

/-- The pickup zone of the sample call is a zone. -/
theorem pickup_lt_sample : 4 < Bench.zonesPerCity := by decide

/-- The dropoff zone of the sample call is a zone. -/
theorem dropoff_lt_sample : 7 < Bench.zonesPerCity := by decide

/-- A trip of three kilometres, cancelled and billed. -/
def sampleCall : Call where
  city := .nyc
  vclass := .economy
  length := 3
  speed := half
  slack := half
  surged := half
  surge := half
  cancelled := zeroDraw
  billed := true
  cut := half
  tripId := 2
  eventId := 1
  driver := ⟨1, driver_lt_sample⟩
  rider := ⟨1, rider_lt_sample⟩
  pickup := ⟨4, pickup_lt_sample⟩
  dropoff := ⟨7, dropoff_lt_sample⟩
  payment := .card
  conf := ⟨"p-1", 0, 600, 0⟩
  nowMs := 1700000000000
  late := half
  lateness := half
  lag := zeroDraw
  malformed := half
  tripId_lt := tripId_lt_sample
  eventId_lt := eventId_lt_sample

/-- The time of the sample call is an event time. -/
theorem eventUs_sampleCall : sampleCall.eventUs = some 1700000000000000 := by
  have hback : sampleCall.backSec = 0 := by
    unfold Call.backSec
    rw [if_neg (by simp [sampleCall])]
    simp [Bench.uniform, sampleCall, zeroDraw]
  have hzero : secondsToMicros 0 = 0 := by
    simpa using secondsToMicros_intCast (q := 0) (by norm_num)
  have hclock : fromTimestamp (fl (fl sampleCall.nowMs / 1000)) = .ok 1700000000000000 := by
    have hseconds : fl (fl sampleCall.nowMs / 1000) = fl (1700000000 : ℤ) := by
      rw [sampleCall, fl_intCast (by norm_num)]
      norm_num
    rw [hseconds, fromTimestamp, secondsToMicros_intCast (by norm_num)]
    rfl
  unfold Call.eventUs
  rw [hclock, hback, hzero]
  rfl

/-- The numbers of the event. -/
theorem floatsOf_sampleCall (us : ℤ) : floatsOf (sampleCall.eventAt us) = [3, 1, 5] := by
  have hround : ∀ (places : ℕ) (n : ℤ), |n| < 1000 → roundPlaces places n = n := by
    intro places n hn
    have hscaled : (n : ℚ) * 10 ^ places = (n * 10 ^ places : ℤ) := by push_cast; rfl
    rw [roundPlaces, hscaled, roundHalfEven_intCast, ← hscaled, mul_div_cancel_right₀ _
      (by positivity), fl_intCast (by omega)]
  have hdistance : sampleCall.distanceKm = 3 := by
    have hshort : fl (4 / 10) ≤ 3 := by
      have := (fl_bounds (x := 4 / 10) (by norm_num)).2
      linarith
    have hlength : min 85 (max (fl (4 / 10)) sampleCall.length) = (3 : ℤ) := by
      rw [sampleCall, max_eq_right hshort]
      norm_num
    rw [Bench.EventDraws.distanceKm, hlength, hround 3 3 (by norm_num)]
    norm_num
  have hsurge : sampleCall.surgeMultiplier = 1 := by
    have := (fl_bounds (x := 18 / 100) (by norm_num)).2
    refine if_neg (not_lt.mpr ?_)
    show fl (18 / 100) ≤ 1 / 2
    linarith
  have hfare : sampleCall.nextEvent.fareAmount = 5 := by
    have hcancelled : sampleCall.isCancelled = true := by
      have := (fl_bounds (x := 55 / 1000) (by norm_num)).1
      refine decide_eq_true ?_
      show 0 < fl (55 / 1000)
      linarith
    have hbilled := hround 2 5 (by norm_num)
    push_cast at hbilled
    show (if sampleCall.isCancelled = true then roundPlaces 2 5 else sampleCall.fare) = 5
    rw [if_pos hcancelled, hbilled]
  have hwell : sampleCall.isMalformed = false := decide_eq_false fun h => absurd h.1 (lt_irrefl 0)
  show sampleCall.distanceKm :: sampleCall.surgeMultiplier :: (if sampleCall.isMalformed then none
    else some sampleCall.nextEvent.fareAmount).toList = _
  rw [hdistance, hsurge, hwell, hfare]
  rfl

/-- `3.0` is a JSON number. -/
theorem isNumber_three : isNumber "3.0".toList = true := by decide

/-- `5.0` is a JSON number. -/
theorem isNumber_five : isNumber "5.0".toList = true := by decide

/-- `1.0` is a JSON number. -/
theorem isNumber_one : isNumber "1.0".toList = true := by decide

/-- The spelling of its numbers. -/
def fareFloats : Floats where
  repr x :=
    if x = 3 then ⟨"3.0".toList, isNumber_three⟩
    else if x = 5 then ⟨"5.0".toList, isNumber_five⟩
    else ⟨"1.0".toList, isNumber_one⟩
  read text :=
    if text.1 = "3.0".toList then .float 3
    else if text.1 = "5.0".toList then .float 5
    else .float 1

/-- The event of the call. -/
def generatedEvent : TripEvent := sampleCall.eventAt 1700000000000000

/-- Its text. -/
def generatedText : String := generatedEvent.text (pyJson fareFloats fun _ => "")

/-- What `from_json` makes of it. -/
def parsedEvent : Event String where
  eventId := some generatedEvent.eventId
  tripId := some generatedEvent.tripId
  eventTime := some generatedEvent.eventTime
  producedAtMs := some generatedEvent.producedAtMs
  cityId := some generatedEvent.cityId
  driverId := some generatedEvent.driverId
  riderId := some generatedEvent.riderId
  pickupZoneId := some generatedEvent.pickupZoneId
  dropoffZoneId := some generatedEvent.dropoffZoneId
  vehicleClass := some generatedEvent.vehicleClass
  paymentType := some generatedEvent.paymentType
  distanceKm := some generatedEvent.distanceKm
  durationSec := some generatedEvent.durationSec
  fareAmount := generatedEvent.fareAmount
  surgeMultiplier := some generatedEvent.surgeMultiplier
  status := some generatedEvent.status
  producerId := some generatedEvent.producerId
  schemaVersion := some generatedEvent.schemaVersion

/-- A deployment that reads it. -/
def generatedDeployment : Deployment where
  conf := sampleDeployment.conf
  spark :=
    { fromJson := fun t => if t = generatedText then some parsedEvent else none
      toTimestamp := fun t =>
        if t = generatedEvent.eventTime then some 1700000000000000 else none }
  codec := pyJson fareFloats fun _ => ""
  fromIsoFormat t :=
    if t = replaceZ generatedEvent.eventTime then some ⟨1700000000000000, some 0⟩ else none

/-- The numbers are read back. -/
theorem readNumber_fareFloats (us : ℤ) : ∀ x ∈ floatsOf (sampleCall.eventAt us),
    readNumber fareFloats (fareFloats.repr x) = .float x := by
  have h3 : fareFloats.repr 3 = ⟨"3.0".toList, isNumber_three⟩ := by simp [fareFloats]
  have h5 : fareFloats.repr 5 = ⟨"5.0".toList, isNumber_five⟩ := by norm_num [fareFloats]
  have h1 : fareFloats.repr 1 = ⟨"1.0".toList, isNumber_one⟩ := by norm_num [fareFloats]
  rw [floatsOf_sampleCall]
  simp only [List.mem_cons, List.not_mem_nil, or_false]
  rintro x (rfl | rfl | rfl)
  · rw [h3]
    rfl
  · rw [h1]
    rfl
  · rw [h5]
    rfl

/-- The sample text loads as the dict of the sample event. -/
theorem loads_generatedText :
    generatedDeployment.codec.loads generatedText = some (.dict generatedEvent.asDict) :=
  loads_event (readNumber_fareFloats _)

/-- The sample call publishes the sample event. -/
theorem published_sampleCall : sampleCall.published = some generatedEvent := by
  rw [Call.published, eventUs_sampleCall]
  rfl

/-- A value of the type of its column stays as it is. -/
theorem fromJson_generated : ∀ col ∈ eventSchema,
    FromJson col.2 (Dict.get generatedEvent.asDict col.1)
      (Dict.get (columnsOf parsedEvent) col.1) := by
  have hfits := fits_generated published_sampleCall
  have hwhole : ∀ bits n, Fits (.whole bits) (.int n) →
      FromJson (.whole bits) (.int n) (.int n) := by
    rintro bits n (h | ⟨n', h, hrange⟩)
    · cases h
    · obtain rfl := PyVal.int.inj h
      have hcolumn := FromJson.whole bits n
      rwa [if_pos hrange] at hcolumn
  intro col hcol
  have hcolumn := hfits col hcol
  simp only [eventSchema, List.mem_cons, List.not_mem_nil, or_false] at hcol
  rcases hcol with rfl | rfl | rfl | rfl | rfl | rfl | rfl | rfl | rfl | rfl | rfl | rfl | rfl |
    rfl | rfl | rfl | rfl | rfl
  all_goals first
    | exact FromJson.string _
    | exact FromJson.float _
    | exact hwhole _ _ hcolumn

/-- The sample deployment reads what the sample call writes. -/
theorem readsEvents_sample : ReadsEvents generatedDeployment {sampleCall} := by
  have htime : ∀ c ∈ ({sampleCall} : Set Call), ∀ us, c.eventUs = some us →
      c = sampleCall ∧ us = 1700000000000000 := by
    rintro c rfl us hus
    exact ⟨rfl, Option.some.inj (hus.symm.trans eventUs_sampleCall)⟩
  have htext : ∀ t e, generatedDeployment.spark.fromJson t = some e →
      t = generatedText ∧ e = parsedEvent := by
    intro t e h
    simp only [generatedDeployment, Option.ite_none_right_eq_some] at h
    exact ⟨h.1, (Option.some.inj h.2).symm⟩
  have hclock : ∀ t us, generatedDeployment.spark.toTimestamp t = some us →
      us = 1700000000000000 := by
    intro t us h
    simp only [generatedDeployment, Option.ite_none_right_eq_some] at h
    exact (Option.some.inj h.2).symm
  have hmillis : millis 1700000000000000 = 1700000000000000 := by decide
  refine ⟨⟨?_, ?_⟩, ?_, rfl, ⟨fareFloats, fun _ => "", rfl, ?_⟩, ?_, ?_, ?_, ?_⟩
  · intro t kvs e hloads hjson
    obtain ⟨rfl, rfl⟩ := htext t e hjson
    obtain rfl := PyVal.dict.inj (Option.some.inj (loads_generatedText.symm.trans hloads))
    exact fromJson_generated
  · intro t us dt hus hdt
    obtain rfl := hclock t us hus
    simp only [generatedDeployment, Option.ite_none_right_eq_some] at hdt
    rw [← Option.some.inj hdt.2]
    rfl
  · exact if_neg fun hempty => Replay.text_ne_empty hempty.symm
  · rintro c hc us hus
    obtain ⟨rfl, -⟩ := htime c hc us hus
    exact readNumber_fareFloats us
  · rintro c hc us hus
    obtain ⟨rfl, rfl⟩ := htime c hc us hus
    show (if generatedText = generatedText then some parsedEvent else none).isSome
    rw [if_pos rfl]
    rfl
  · rintro c hc us hus
    obtain ⟨rfl, rfl⟩ := htime c hc us hus
    have hclock : generatedDeployment.spark.toTimestamp generatedEvent.eventTime =
        some 1700000000000000 := by simp [generatedDeployment]
    rw [hmillis]
    exact hclock
  · rintro c hc us hus
    obtain ⟨rfl, rfl⟩ := htime c hc us hus
    have hiso : generatedDeployment.fromIsoFormat (replaceZ generatedEvent.eventTime) =
        some ⟨1700000000000000, some 0⟩ := by simp [generatedDeployment]
    rw [hmillis]
    exact hiso
  · rintro c rfl c' rfl -
    rfl

/-- The message of the event. -/
def generatedMessage : KafkaMessage := ⟨some generatedText, "trips.raw", 0, 0, 0⟩

/-- The message is published. -/
theorem runsIn_published :
    RunsIn generatedDeployment (textsOf generatedDeployment {sampleCall})
      ((PipelineState.init.offer [generatedText]).publish [generatedMessage]) := by
  have hstart : Runs generatedDeployment .init := .of_start rfl
  refine runsIn_of_runs (hstart.tail (.publish .init generatedMessage)) fun text hmem => ?_
  exact ⟨sampleCall, rfl, _, eventUs_sampleCall, List.mem_singleton.mp hmem⟩

/-- The general result at the event of one call. -/
theorem generated_reach_tables_sample : ∃ s : PipelineState, s.raw = [generatedMessage] ∧
    (∀ t k row, visible s (t, k) = some row → ∃ c ∈ ({sampleCall} : Set Call), ∃ us,
        c.eventUs = some us ∧ c.isMalformed = false ∧ k = generatedKey c us t ∧
          row = generatedRow c us t) ∧
      ∀ args env, HealthyDrain generatedDeployment s.dlq args env →
        ∃ run, drain args env (values s.dlq) = .ok run ∧
          ∀ sent : List KafkaMessage,
            sent.map KafkaMessage.value = (run.produced.map fun p => some p.value) →
              ∀ batch benv out,
                batch.rows.Perm ((s.pending ++ sent).map (source generatedDeployment.spark)) →
                benv.Forall SinkEnv.Healthy →
                processBatch generatedDeployment.conf benv none batch = .ok out →
                  let s' := ((s.drained run sent).advance none (s.pending ++ sent)).batched out
                  ∀ m ∈ s'.raw, ∀ text, m.value = some text →
                    ∃ c ∈ ({sampleCall} : Set Call), ∃ us, c.eventUs = some us ∧
                      text = (c.eventAt us).text generatedDeployment.codec ∧
                        (∀ t k row, visible s' (t, k) = some row ∧
                            Dict.get row "trip_id" = .uuid c.tripId ↔
                          c.isMalformed = false ∧ k = generatedKey c us t ∧
                            row = generatedRow c us t) ∧
                        (c.isMalformed = true → ∃ e, s'.OnDlq e ∧
                          e.lookup "original_payload" = some (.str text)) := by
  exact ⟨_, rfl, generated_reach_tables readsEvents_sample (Or.inl rfl) runsIn_published⟩

end TripPipeline.Flow
