import Mathlib.Algebra.Order.Group.Int
import Mathlib.Data.Finset.Card
import Mathlib.Tactic.Common
import TripPipeline.Common.Py
import TripPipeline.Lib.Except

/-!
# The reconciliation of a scenario

`Scenario.build_report` of `bench/run_scenario.py` compares what Kafka persisted with the rows of
`trips_by_id` and the events of the DLQ. It adds the last two up; an event that is in both counts
twice, and hides one that is in neither.

* `residual_eq`: the report's residual is the loss less the overlap.
* **The report is exact iff one of the two is empty** (`unaccounted_eq_loss_iff`): it names the
  silent loss exactly when no event is both written and quarantined, or none is lost. It never names
  more (`unaccounted_le_loss`).
* `unaccounted_hides_loss`: one event lost and one in both, and the report says 0.
-/

namespace TripPipeline.Bench

open TripPipeline.Common TripPipeline.Lib

/-! ## What the report reads -/

/-- `subprocess.CompletedProcess`. -/
structure CompletedProcess where
  returncode : ℤ
  stdout : String
  stderr : String

/-- `topic_count`, from the end offset of each partition.
Source: `bench/run_scenario.py` `topic_count` -/
def topicCount (ends : List (ℤ × ℤ)) : ℤ := (ends.map Prod.snd).sum

/-- The characters `str.strip()` removes. -/
def pySpace : List Char :=
  [0x09, 0x0a, 0x0b, 0x0c, 0x0d, 0x1c, 0x1d, 0x1e, 0x1f, 0x20, 0x85, 0xa0, 0x1680, 0x2000, 0x2001,
   0x2002, 0x2003, 0x2004, 0x2005, 0x2006, 0x2007, 0x2008, 0x2009, 0x200a, 0x2028, 0x2029, 0x202f,
   0x205f, 0x3000].map Char.ofNat

/-- The answer of `dlq_distinct_events` when it has no count. -/
def inspectFailed (error : String) : Dict :=
  [("records", .int (-1)), ("distinct_event_ids", .int (-1)), ("error", .str error)]

/-- `stdout[stdout.index("{"):]`, which raises `ValueError` when there is none. -/
def fromBrace (stdout : String) : Except Exc String :=
  if '{' ∈ stdout.toList then .ok (String.ofList (stdout.toList.dropWhile (· ≠ '{')))
  else .error ⟨"ValueError", "substring not found", [.valueError]⟩

/-- Count distinct quarantined events, from the output of `inspect`. `loads` is `json.loads`.
Source: `bench/run_scenario.py` `dlq_distinct_events` -/
def dlqDistinctEvents (loads : String → Except Exc PyVal) (r : CompletedProcess) :
    Except Exc PyVal :=
  if r.returncode ≠ 0 then
    .ok (.dict (inspectFailed (String.ofList ((stripChars pySpace r.stderr.toList).take 300))))
  else
    match fromBrace r.stdout >>= loads with
    | .ok v => .ok v
    | .error e =>
        if e.isInstance [.valueError] then .ok (.dict (inspectFailed e.text)) else .error e

/-- `info.get(field, 0)` of a decoded object, where it is an `int`: the reports read here are
written with counts in these fields. -/
def getCount (info : PyVal) (field : String) : Except Exc ℤ :=
  match info with
  | .dict kvs =>
      match kvs.lookup field with
      | some (.int n) => .ok n
      | some _ => .error ⟨"TypeError", "unsupported operand type(s)", [.typeError]⟩
      | none => .ok 0
  | _ => .error ⟨"AttributeError", "object has no attribute 'get'", [.attributeError]⟩

/-- What a scenario counted before its run. -/
structure Scenario where
  dlqBefore : ℤ
  rawBefore : ℤ
  tripsBefore : ℤ

/-- What `build_report` reads for the reconciliation: the producer's report (`none` when there is
no readable file), the end offsets of `trips.dlq` and `trips.raw`, the answer of `inspect` and the
row counts of the tables. -/
structure Readings where
  producer : Option Dict
  dlqEnds : List (ℤ × ℤ)
  inspect : CompletedProcess
  cassandra : List (String × ℤ)
  rawEnds : List (ℤ × ℤ)

/-- The entry `"reconciliation"` of the report. -/
structure Reconciliation where
  kafkaMessagesPersisted : ℤ
  producerAckedCallbacks : ℤ
  callbackShortfall : ℤ
  kafkaAcked : ℤ
  duplicatesEmitted : ℤ
  expectedDistinctEvents : ℤ
  writtenDistinctTrips : ℤ
  dlqMessages : ℤ
  dlqDistinctEvents : ℤ
  accountedFor : ℤ
  partialWriteOverlap : ℤ
  unaccountedSilentLoss : ℤ
  deriving DecidableEq, Repr

/-- The reconciliation of a run.
Source: `bench/run_scenario.py` `Scenario.build_report` -/
def buildReport (loads : String → Except Exc PyVal) (scenario : Scenario) (o : Readings) :
    Except Exc Reconciliation := do
  let producer := o.producer.getD []
  let dlqMsgs := max 0 (topicCount o.dlqEnds - scenario.dlqBefore)
  let dlqInfo ← dlqDistinctEvents loads o.inspect
  let dlqRun ← getCount dlqInfo "distinct_event_ids"
  -- inspection failed; fall back to raw count
  let dlqRun := if dlqRun < 0 then dlqMsgs else dlqRun
  let kafkaMessages := max 0 (topicCount o.rawEnds - scenario.rawBefore)
  let acked ← getCount (.dict producer) "acked"
  let writtenDistinct := (o.cassandra.lookup "trips_by_id").getD 0 - scenario.tripsBefore
  let dupes ← getCount (.dict producer) "duplicates_emitted"
  let expectedDistinct := kafkaMessages - dupes
  let callbackShortfall := kafkaMessages - acked
  let accounted := min expectedDistinct (writtenDistinct + dlqRun)
  let rawResidual := expectedDistinct - (writtenDistinct + dlqRun)
  let unaccounted := max 0 rawResidual
  let partialWriteOverlap := max 0 (-rawResidual)
  .ok
    { kafkaMessagesPersisted := kafkaMessages
      producerAckedCallbacks := acked
      callbackShortfall := callbackShortfall
      kafkaAcked := acked
      duplicatesEmitted := dupes
      expectedDistinctEvents := expectedDistinct
      writtenDistinctTrips := writtenDistinct
      dlqMessages := dlqMsgs
      dlqDistinctEvents := dlqRun
      accountedFor := accounted
      partialWriteOverlap := partialWriteOverlap
      unaccountedSilentLoss := unaccounted }

/-! ## What happened to the events -/

variable {ε : Type} [DecidableEq ε]

/-- The events of a run, those with a row in `trips_by_id` and those with a DLQ record. -/
structure Fates (ε : Type) where
  events : Finset ε
  written : Finset ε
  quarantined : Finset ε
  written_subset : written ⊆ events
  quarantined_subset : quarantined ⊆ events

namespace Fates

/-- The events that are in neither place. -/
def loss (f : Fates ε) : Finset ε := f.events \ (f.written ∪ f.quarantined)

/-- The events that are in both. -/
def overlap (f : Fates ε) : Finset ε := f.written ∩ f.quarantined

/-- **What is left over is the loss less the overlap.** -/
theorem residual_eq (f : Fates ε) :
    (f.events.card : ℤ) - (f.written.card + f.quarantined.card) =
      f.loss.card - f.overlap.card := by
  have hunion := Finset.card_union_add_card_inter f.written f.quarantined
  have hloss : f.loss.card + (f.written ∪ f.quarantined).card = f.events.card :=
    Finset.card_sdiff_add_card_eq_card
      (Finset.union_subset f.written_subset f.quarantined_subset)
  rw [overlap]
  omega

end Fates

/-- The report's readings count these events: `trips.raw` grew by the events and the duplicates,
`trips_by_id` by the written ones, and the DLQ shows the quarantined ones. -/
structure Counts (loads : String → Except Exc PyVal) (scenario : Scenario) (o : Readings)
    (f : Fates ε) : Prop where
  acked : ∃ acked, getCount (.dict (o.producer.getD [])) "acked" = .ok acked
  raw : ∃ dupes, getCount (.dict (o.producer.getD [])) "duplicates_emitted" = .ok dupes ∧
    max 0 (topicCount o.rawEnds - scenario.rawBefore) = f.events.card + dupes
  written : (o.cassandra.lookup "trips_by_id").getD 0 - scenario.tripsBefore = f.written.card
  quarantined : ∃ info n, dlqDistinctEvents loads o.inspect = .ok info ∧
    getCount info "distinct_event_ids" = .ok n ∧
      (if n < 0 then max 0 (topicCount o.dlqEnds - scenario.dlqBefore) else n) = f.quarantined.card

variable {loads : String → Except Exc PyVal} {scenario : Scenario} {o : Readings} {f : Fates ε}

/-- **The report of counted events.** -/
theorem Counts.buildReport_eq (h : Counts loads scenario o f) :
    ∃ r, buildReport loads scenario o = .ok r ∧ r.expectedDistinctEvents = f.events.card ∧
      r.unaccountedSilentLoss = max 0 ((f.loss.card : ℤ) - f.overlap.card) ∧
      r.partialWriteOverlap = max 0 ((f.overlap.card : ℤ) - f.loss.card) := by
  obtain ⟨acked, hacked⟩ := h.acked
  obtain ⟨dupes, hdupes, hraw⟩ := h.raw
  obtain ⟨info, n, hinfo, hn, hdlq⟩ := h.quarantined
  have hexpected : max 0 (topicCount o.rawEnds - scenario.rawBefore) - dupes = f.events.card := by
    omega
  unfold buildReport
  simp only [hinfo, hn, hacked, hdupes, bind, Except.bind, hdlq, hexpected, h.written,
    f.residual_eq, neg_sub]
  exact ⟨_, rfl, rfl, rfl, rfl⟩

/-- The report never names more than was lost. -/
theorem unaccounted_le_loss (h : Counts loads scenario o f) :
    ∃ r, buildReport loads scenario o = .ok r ∧ r.unaccountedSilentLoss ≤ f.loss.card := by
  obtain ⟨r, hr, -, hunaccounted, -⟩ := h.buildReport_eq
  refine ⟨r, hr, ?_⟩
  rw [hunaccounted]
  omega

/-- **The report is exact iff nothing overlaps or nothing is lost.** -/
theorem unaccounted_eq_loss_iff (h : Counts loads scenario o f) :
    ∃ r, buildReport loads scenario o = .ok r ∧
      (r.unaccountedSilentLoss = (f.events \ (f.written ∪ f.quarantined)).card ↔
        Disjoint f.written f.quarantined ∨ f.events ⊆ f.written ∪ f.quarantined) := by
  obtain ⟨r, hr, -, hunaccounted, -⟩ := h.buildReport_eq
  refine ⟨r, hr, ?_⟩
  rw [hunaccounted, Finset.disjoint_iff_inter_eq_empty, ← Finset.sdiff_eq_empty_iff_subset,
    ← Finset.card_eq_zero, ← Finset.card_eq_zero]
  change max 0 ((f.loss.card : ℤ) - f.overlap.card) = f.loss.card ↔
    f.overlap.card = 0 ∨ f.loss.card = 0
  omega

/-! ## Readings that two fates share -/

/-- The output of `inspect` on a topic with one record. -/
def inspectText : String :=
  "\x7b\"topic\": \"trips.dlq\", \"records\": 1, \"distinct_event_ids\": 1, \"sample\": []\x7d"

/-- `json.loads` on it. -/
def inspectLoads (text : String) : Except Exc PyVal :=
  if text = inspectText then
    .ok (.dict [("topic", .str "trips.dlq"), ("records", .int 1), ("distinct_event_ids", .int 1),
      ("sample", .list [])])
  else .error ⟨"JSONDecodeError", "Expecting value", [.valueError]⟩

/-- Two events persisted, one row, one quarantined event. -/
def sampleReadings : Readings where
  producer := some [("acked", .int 2), ("duplicates_emitted", .int 0)]
  dlqEnds := [(0, 1)]
  inspect := ⟨0, inspectText, ""⟩
  cassandra := [("trips_by_id", 1), ("trips_by_driver_day", 1), ("trips_by_city_hour", 1)]
  rawEnds := [(0, 2)]

/-- `dlq_tools.py inspect` of the sample reads as one distinct event. -/
theorem dlqDistinctEvents_sample : dlqDistinctEvents inspectLoads sampleReadings.inspect =
    .ok (.dict [("topic", .str "trips.dlq"), ("records", .int 1), ("distinct_event_ids", .int 1),
      ("sample", .list [])]) := by
  have htext : inspectText.toList.dropWhile (· ≠ '{') = inspectText.toList := by decide +kernel
  have hbrace : fromBrace inspectText = .ok inspectText := by
    rw [fromBrace, if_pos (by decide +kernel), htext, String.ofList_toList]
  rw [sampleReadings, dlqDistinctEvents, if_neg (by decide), hbrace]
  rfl

omit [DecidableEq ε] in
/-- The sample readings count these fates. -/
theorem counts_sample {f : Fates ε} (hevents : f.events.card = 2) (hwritten : f.written.card = 1)
    (hquarantined : f.quarantined.card = 1) : Counts inspectLoads ⟨0, 0, 0⟩ sampleReadings f := by
  refine ⟨⟨2, rfl⟩, ⟨0, rfl, ?_⟩, ?_, ⟨_, 1, dlqDistinctEvents_sample, rfl, ?_⟩⟩
  · rw [hevents]
    rfl
  · rw [hwritten]
    rfl
  · rw [hquarantined]
    rfl

/-- One event written, the other quarantined. -/
def separate : Fates ℕ := ⟨{0, 1}, {0}, {1}, by decide, by decide⟩

/-- One event written and quarantined, the other lost. -/
def overlapping : Fates ℕ := ⟨{0, 1}, {0}, {0}, by decide, by decide⟩

/-- The general result at one written and one quarantined event. -/
theorem unaccounted_eq_loss_separate :
    ∃ r, buildReport inspectLoads ⟨0, 0, 0⟩ sampleReadings = .ok r ∧
      (r.unaccountedSilentLoss =
          (separate.events \ (separate.written ∪ separate.quarantined)).card ↔
        Disjoint separate.written separate.quarantined ∨
          separate.events ⊆ separate.written ∪ separate.quarantined) :=
  unaccounted_eq_loss_iff (counts_sample rfl rfl rfl)

/-- The report says 0 while an event is lost. -/
theorem unaccounted_hides_loss :
    Counts inspectLoads ⟨0, 0, 0⟩ sampleReadings overlapping ∧
      ∃ r, buildReport inspectLoads ⟨0, 0, 0⟩ sampleReadings = .ok r ∧
        r.unaccountedSilentLoss = 0 ∧
          overlapping.events \ (overlapping.written ∪ overlapping.quarantined) = {1} := by
  have hcounts : Counts inspectLoads ⟨0, 0, 0⟩ sampleReadings overlapping :=
    counts_sample rfl rfl rfl
  obtain ⟨r, hr, -, hunaccounted, -⟩ := hcounts.buildReport_eq
  refine ⟨hcounts, r, hr, ?_, by decide⟩
  rw [hunaccounted]
  decide

end TripPipeline.Bench
