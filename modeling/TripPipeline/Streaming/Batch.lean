import TripPipeline.Lib.Sql
import TripPipeline.Streaming.Sink

/-!
# One micro-batch

`TripStream._process_batch`: the rows of a batch are routed (`route`), the rows that are left go to
the partition writer, its outcomes are read by three actions, and the high-water mark advances.

* A `Frame` is a list of partitions, each a list of rows; a filter works on each partition.
* `outcomes` is lazy. Its partitions are `Block`s: an action takes the cached result of a block or,
  when there is none or it was lost, evaluates the partition writer again (`Block.read`). What is
  lost, and in which environment an evaluation runs, is the parameter `Access` of that action and
  partition.
* Times are microseconds since the epoch, the mark is an `int` of milliseconds. Seconds in between
  are doubles, and `fl` rounds where Python does.

A batch ends with an exception when a timestamp is outside the range of `datetime`, or when an
exception escapes the partition writer (`Except`).

Left out: metrics, logging, the progress file and the elapsed time, which nothing reads back.
-/

namespace TripPipeline.Streaming

open TripPipeline.Common TripPipeline.Lib

/-! ## Frames -/

/-- The partitions of a DataFrame of rows. -/
abbrev Frame := List (List StreamRow)

namespace Frame

/-- `frame.filter(condition)`. -/
def where3 (f : Frame) (p : StreamRow → Option Bool) : Frame := f.map (filter3 p)

/-- The rows of all partitions. -/
def rows (f : Frame) : List StreamRow := f.flatten

/-- `frame.count()`. -/
def count (f : Frame) : ℕ := f.rows.length

/-- Filtering a frame filters its rows. -/
theorem rows_where3 (f : Frame) (p : StreamRow → Option Bool) :
    (f.where3 p).rows = filter3 p f.rows := by
  unfold where3 rows filter3
  rw [List.filter_flatten]

end Frame

/-! ## Times -/

/-- The range of `datetime`, in microseconds since the epoch: year 1 to year 9999. -/
def datetimeMin : ℤ := -62135596800 * 1000000
@[inherit_doc datetimeMin] def datetimeMax : ℤ := 253402300800 * 1000000 - 1

/-- A timestamp as a `datetime`. -/
def checkRange (us : ℤ) : Except Exc ℤ :=
  if datetimeMin ≤ us ∧ us ≤ datetimeMax then .ok us
  else .error ⟨"ValueError", "year is out of range", [.valueError]⟩

/-- `datetime.fromtimestamp(t, tz=timezone.utc)`, as microseconds since the epoch. -/
def fromTimestamp (t : ℚ) : Except Exc ℤ := checkRange (secondsToMicros t)

/-- `int(hw.replace(tzinfo=timezone.utc).timestamp() * 1000)`. -/
def highWaterMs (us : ℤ) : ℤ := trunc (fl (fl (us / 1000000) * 1000))

/-! ## Configuration -/

/-- What `TripStream` reads of its configuration. -/
structure StreamConf where
  sink : SinkConf
  /-- `parse_watermark_seconds(watermark_delay)`; `withWatermark` refuses a negative delay. -/
  allowedLatenessSec : ℕ
  latePolicy : String

/-! ## Routing -/

/-- `F.col("_unparseable")`, which is never null. -/
def isUnparseable (r : StreamRow) : Option Bool := some r.unparseable

/-- `batch.filter(~F.col("_unparseable"))`. -/
def parseable (batch : Frame) : Frame := batch.where3 fun r => not3 (isUnparseable r)

/-- `F.col("event_time") < F.lit(cutoff)`. -/
def isLate (cutoff : ℤ) (r : StreamRow) : Option Bool := lt3 r.event.eventTime (some cutoff)

/-- `F.col("event_time") >= F.lit(cutoff)`. -/
def isOnTime (cutoff : ℤ) (r : StreamRow) : Option Bool := ge3 r.event.eventTime (some cutoff)

/-- `cutoff`, from the mark. -/
def cutoffOf (conf : StreamConf) (maxEventMs : ℤ) : Except Exc ℤ :=
  fromTimestamp (fl (fl (maxEventMs - conf.allowedLatenessSec * 1000 : ℤ) / 1000))

/-- Where the rows of a batch go. -/
structure Routes where
  /-- The frame of the unparseable DLQ write. -/
  bad : Frame
  /-- The rows classified late. -/
  late : Frame
  /-- The cutoff the rows were compared with. -/
  cutoff : Option ℤ
  /-- The frame of the `late_event` DLQ write. -/
  lateWrite : Frame
  /-- The frame handed to the partition writer. -/
  good : Frame

/-- The first half of `_process_batch`, up to the Cassandra write.
Source: `streaming/stream_job.py` `TripStream._process_batch` -/
def route (conf : StreamConf) (maxEventMs : Option ℤ) (batch : Frame) : Except Exc Routes :=
  let bad := batch.where3 isUnparseable
  let good := parseable batch
  match maxEventMs with
  | none => .ok ⟨bad, [], none, [], good⟩
  | some m =>
      if conf.latePolicy ≠ "process" then do
        let cutoff ← cutoffOf conf m
        let late := good.where3 (isLate cutoff)
        if late.count ≠ 0 then
          .ok ⟨bad, late, some cutoff, if conf.latePolicy = "dlq" then late else [],
            good.where3 (isOnTime cutoff)⟩
        else .ok ⟨bad, late, some cutoff, [], good⟩
      else .ok ⟨bad, [], none, [], good⟩

/-! ## The DLQ messages of the driver -/

/-- A message of `trips.dlq`. Its value is the JSON text of the object `value`; Spark writes the
text of the key. -/
structure DlqMessage where
  key : PyVal
  value : Dict

/-- `F.to_json(F.struct(...))`: null fields are left out. -/
def toJsonStruct (fields : Dict) : Dict := fields.filter fun kv => !kv.2.isNone

/-- The fields of the record of an unparseable row. `now` is `F.unix_timestamp()`. -/
def unparseableRecord (now : ℤ) (r : StreamRow) : Dict :=
  [("original_payload", .ofOption .str r.raw),
   ("failure_reason", .str "JsonParseError: value did not match event schema"),
   ("failure_stage", .str "parse"),
   ("retry_count", .int 0),
   ("first_failed_at_ms", .int (now * 1000)),
   ("quarantined_at_ms", .int (now * 1000)),
   ("source_topic", .str r.topic),
   ("source_partition", .int r.partition),
   ("source_offset", .int r.offset),
   ("replay_count", .int 0),
   ("dlq_schema_version", .int 1)]

/-- The fields of the record of a late row. -/
def lateRecord (now : ℤ) (cutoffText : String) (r : StreamRow) : Dict :=
  [("original_payload", .ofOption .str r.raw),
   ("failure_reason", .str ("LateEvent: event_time older than watermark " ++ cutoffText)),
   ("failure_stage", .str "late_event"),
   ("retry_count", .int 0),
   ("first_failed_at_ms", .int (now * 1000)),
   ("quarantined_at_ms", .int (now * 1000)),
   ("event_id", .ofOption .str r.event.eventId),
   ("source_topic", .str r.topic),
   ("source_partition", .int r.partition),
   ("source_offset", .int r.offset),
   ("replay_count", .int 0),
   ("dlq_schema_version", .int 1)]

/-! ## The lazy outcomes -/

/-- What happens to one partition of `outcomes` while an action reads it. -/
structure Access where
  /-- The cached result, if any, is gone. -/
  lost : Bool
  /-- Evaluations whose result was lost before the action could use it. -/
  discarded : List SinkEnv
  /-- The evaluation whose result the action uses, when none is cached. -/
  env : SinkEnv

/-- A partition of `outcomes`. -/
structure Block where
  rows : List StreamRow
  cached : Option PartitionRun
  /-- The evaluations that ended normally so far. -/
  evaluations : List PartitionRun

/-- One action reads one partition. -/
def Block.read (conf : SinkConf) (a : Access) (b : Block) : Except Exc (PartitionRun × Block) :=
  let cached := if a.lost then none else b.cached
  match cached with
  | some run => .ok (run, b)
  | none => do
      let run ← writePartition a.env conf b.rows
      let discarded := a.discarded.filterMap fun env => (writePartition env conf b.rows).toOption
      .ok (run, { b with
        cached := some run
        evaluations := b.evaluations ++ discarded ++ [run] })

/-- One action reads every partition. -/
def readAll (conf : SinkConf) (access : ℕ → Access) (blocks : List Block) :
    Except Exc (List (PartitionRun × Block)) :=
  blocks.zipIdx.mapM fun b => b.1.read conf (access b.2)

/-- The rows of an action's result with `kind == "dlq"`. -/
def dlqRows (runs : List PartitionRun) : List (PyVal × DLQRecord) :=
  (runs.flatMap PartitionRun.yields).filterMap fun
    | .dlq _ key value => some (key, value)
    | .stats _ => none

/-- The rows of an action's result with `kind == "stats"`. -/
def statsRows (runs : List PartitionRun) : List StatsPayload :=
  (runs.flatMap PartitionRun.yields).filterMap fun
    | .dlq _ _ _ => none
    | .stats p => some p

/-! ## Merged stats -/

/-- The counters of a batch. -/
structure Agg where
  rowsWritten : ℕ
  dlqEmitted : ℕ
  validationRejects : ℕ
  retriedWrites : ℕ
  retriedWritesRetries : ℕ
  latencySumMs : ℤ
  latencyCount : ℕ
  latencyMaxMs : ℤ
  attempts : ℕ
  successes : ℕ
  failuresExhausted : ℕ
  retriesBeforeSuccess : ℕ
  totalBackoffMs : ℚ
  failureReasons : Counter String

/-- `_EMPTY_AGG`. -/
def Agg.empty : Agg := ⟨0, 0, 0, 0, 0, 0, 0, 0, 0, 0, 0, 0, 0, Counter.empty⟩

/-- One turn of the loop of `_merge_stats`. -/
def Agg.addStats (agg : Agg) (p : StatsPayload) : Agg where
  rowsWritten := agg.rowsWritten + p.rowsWritten
  dlqEmitted := agg.dlqEmitted + p.dlqEmitted
  validationRejects := agg.validationRejects + p.validationRejects
  retriedWrites := agg.retriedWrites + p.retriedWrites
  retriedWritesRetries := agg.retriedWritesRetries + p.retriedWritesRetries
  latencySumMs := agg.latencySumMs + p.latencySumMs
  latencyCount := agg.latencyCount + p.latencyCount
  latencyMaxMs := max agg.latencyMaxMs p.latencyMaxMs
  attempts := agg.attempts + p.retryStats.attempts
  successes := agg.successes + p.retryStats.successes
  failuresExhausted := agg.failuresExhausted + p.retryStats.failuresExhausted
  retriesBeforeSuccess := agg.retriesBeforeSuccess + p.retryStats.retriesBeforeSuccess
  totalBackoffMs := agg.totalBackoffMs + p.retryStats.totalBackoffMs
  failureReasons := agg.failureReasons.merge p.retryStats.failureReasons

/-- The counters of all partitions.
Source: `streaming/stream_job.py` `TripStream._merge_stats` -/
def mergeStats (rows : List StatsPayload) : Agg := rows.foldl Agg.addStats Agg.empty

/-- The report of a batch.
Source: `streaming/stream_job.py` `TripStream._record_batch` -/
structure BatchReport where
  inputRows : ℕ
  unparseable : ℕ
  late : ℕ
  dlq : ℕ
  agg : Agg

/-! ## The batch -/

/-- What a batch meets, outside the repository's code. -/
structure BatchEnv where
  /-- `F.unix_timestamp()`. -/
  unixTimestamp : ℤ
  /-- `cutoff.isoformat()`. -/
  isoformat : ℤ → String
  /-- `outcomes.filter(kind == "stats").collect()`. -/
  collectStats : ℕ → Access
  /-- `dlq_rows.count()`. -/
  countDlq : ℕ → Access
  /-- `self._write_dlq(dlq_rows.select("key", "value"))`. -/
  saveDlq : ℕ → Access

/-- What a completed batch did. -/
structure BatchRun where
  /-- `self._max_event_ms` afterwards. -/
  maxEventMs : Option ℤ
  routes : Routes
  /-- The messages written to `trips.dlq`. -/
  dlq : List DlqMessage
  /-- The partitions of `outcomes`, with their evaluations. -/
  blocks : List Block
  report : BatchReport

/-- The messages of the two quarantining frames. -/
def Routes.messages (env : BatchEnv) (r : Routes) : List DlqMessage :=
  (r.bad.rows.map fun row =>
    ⟨.str (row.event.eventId.getD "unparseable"),
      toJsonStruct (unparseableRecord env.unixTimestamp row)⟩) ++
  (r.lateWrite.rows.map fun row =>
    ⟨.ofOption .str row.event.eventId,
      toJsonStruct (lateRecord env.unixTimestamp (env.isoformat (r.cutoff.getD 0)) row)⟩)

/-- `hw`: the greatest event time of the frame. -/
def highWater (good : Frame) : Option ℤ := max3 (good.rows.map fun r => r.event.eventTime)

/-- `self._max_event_ms = max(self._max_event_ms or 0, hw_ms)`, unless `hw is None`. -/
def advance (maxEventMs : Option ℤ) : Option ℤ → Option ℤ
  | none => maxEventMs
  | some hw => some (max (maxEventMs.getD 0) (highWaterMs hw))

/-- Spark hands a partition to Python: its timestamps become `datetime` values. -/
def toPython (r : StreamRow) : Except Exc Unit := do
  let _ ← checkRange r.kafkaTs
  let _ ← r.event.eventTime.mapM checkRange
  .ok ()

/-- One micro-batch, with the driver's mark before it.
Source: `streaming/stream_job.py` `TripStream._process_batch` -/
def processBatch (conf : StreamConf) (env : BatchEnv) (maxEventMs : Option ℤ) (batch : Frame) :
    Except Exc BatchRun :=
  if batch.count = 0 then
    .ok ⟨maxEventMs, ⟨[], [], none, [], []⟩, [], [], ⟨0, 0, 0, 0, Agg.empty⟩⟩
  else do
    let routes ← route conf maxEventMs batch
    routes.good.rows.forM toPython
    let blocks : List Block := routes.good.map fun rows => ⟨rows, none, []⟩
    let collected ← readAll conf.sink env.collectStats blocks
    let counted ← readAll conf.sink env.countDlq (collected.map Prod.snd)
    let nDlq := (dlqRows (counted.map Prod.fst)).length
    let agg := mergeStats (statsRows (collected.map Prod.fst))
    let report : BatchReport := ⟨batch.count, routes.bad.count, routes.late.count, nDlq, agg⟩
    let mark := advance maxEventMs (highWater routes.good)
    if nDlq ≠ 0 then
      let saved ← readAll conf.sink env.saveDlq (counted.map Prod.snd)
      let sink := (dlqRows (saved.map Prod.fst)).map fun kv => ⟨kv.1, kv.2.asdict⟩
      .ok ⟨mark, routes, routes.messages env ++ sink, saved.map Prod.snd, report⟩
    else .ok ⟨mark, routes, routes.messages env, counted.map Prod.snd, report⟩

/-! ## Inversion -/

/-- What a batch with rows has done when it ends normally. -/
structure Completed (conf : StreamConf) (env : BatchEnv) (maxEventMs : Option ℤ) (batch : Frame)
    (out : BatchRun) : Prop where
  routed : route conf maxEventMs batch = .ok out.routes
  inRange : ∀ r ∈ out.routes.good.rows, toPython r = .ok ()
  advanced : out.maxEventMs = advance maxEventMs (highWater out.routes.good)
  /-- The three actions; the last is left out when the second found nothing. -/
  actions : ∃ collected counted,
    readAll conf.sink env.collectStats (out.routes.good.map fun rows => ⟨rows, none, []⟩) =
      .ok collected ∧
    readAll conf.sink env.countDlq (collected.map Prod.snd) = .ok counted ∧
    ((dlqRows (counted.map Prod.fst) = [] ∧ out.dlq = out.routes.messages env ∧
        out.blocks = counted.map Prod.snd) ∨
      ∃ saved, readAll conf.sink env.saveDlq (counted.map Prod.snd) = .ok saved ∧
        out.dlq = out.routes.messages env ++
          (dlqRows (saved.map Prod.fst)).map (fun kv => ⟨kv.1, kv.2.asdict⟩) ∧
        out.blocks = saved.map Prod.snd)

/-- **Inversion of `_process_batch`.** -/
theorem processBatch_completed {conf : StreamConf} {env : BatchEnv} {maxEventMs : Option ℤ}
    {batch : Frame} {out : BatchRun} (h : processBatch conf env maxEventMs batch = .ok out)
    (hrows : batch.count ≠ 0) : Completed conf env maxEventMs batch out := by
  rw [processBatch, if_neg hrows] at h
  obtain ⟨routes, hroutes, h⟩ := bind_eq_ok_iff.mp h
  obtain ⟨hpython, h⟩ := bind_unit_eq_ok_iff.mp h
  obtain ⟨collected, hcollected, h⟩ := bind_eq_ok_iff.mp h
  obtain ⟨counted, hcounted, h⟩ := bind_eq_ok_iff.mp h
  have hrange : ∀ r ∈ routes.good.rows, toPython r = .ok () := forM_eq_ok_iff.mp hpython
  dsimp only at h
  by_cases hdlq : (dlqRows (counted.map Prod.fst)).length ≠ 0
  · rw [if_pos hdlq] at h
    obtain ⟨saved, hsaved, h⟩ := bind_eq_ok_iff.mp h
    obtain rfl := Except.ok.inj h
    exact ⟨hroutes, hrange, rfl,
      collected, counted, hcollected, hcounted, Or.inr ⟨saved, hsaved, rfl, rfl⟩⟩
  · rw [if_neg hdlq] at h
    obtain rfl := Except.ok.inj h
    have hnil : dlqRows (counted.map Prod.fst) = [] :=
      List.eq_nil_of_length_eq_zero (not_not.mp hdlq)
    exact ⟨hroutes, hrange, rfl,
      collected, counted, hcollected, hcounted, Or.inl ⟨hnil, rfl, rfl⟩⟩

/-- Reading the outcomes does not change which rows they are computed from. -/
theorem readAll_rows {conf : SinkConf} {access : ℕ → Access} {blocks : List Block}
    {reads : List (PartitionRun × Block)} (h : readAll conf access blocks = .ok reads) :
    reads.map (fun r => r.2.rows) = blocks.map Block.rows := by
  have hread : ∀ (a : Access) (b : Block) (r : PartitionRun × Block),
      b.read conf a = .ok r → r.2.rows = b.rows := by
    intro a b r hr
    unfold Block.read at hr
    dsimp only at hr
    split at hr
    · obtain rfl := Except.ok.inj hr
      rfl
    · obtain ⟨run, -, hr⟩ := bind_eq_ok_iff.mp hr
      obtain rfl := Except.ok.inj hr
      rfl
  have hall := mapM_eq_ok_iff.mp h
  have hrows : reads.map (fun r => r.2.rows) = blocks.zipIdx.map fun b => b.1.rows := by
    clear h
    generalize blocks.zipIdx = indexed at hall
    induction hall with
    | nil => rfl
    | cons hb _ ih => rw [List.map_cons, List.map_cons, ih, hread _ _ _ hb]
  rw [hrows, ← Function.comp_def Block.rows Prod.fst, ← List.map_map, List.zipIdx_map_fst]

/-- The partition writer is handed the rows that were not routed elsewhere. -/
theorem Completed.blocks_rows {conf : StreamConf} {env : BatchEnv} {maxEventMs : Option ℤ}
    {batch : Frame} {out : BatchRun} (h : Completed conf env maxEventMs batch out) :
    out.blocks.map Block.rows = out.routes.good := by
  obtain ⟨collected, counted, hcollected, hcounted, hsave⟩ := h.actions
  have hgood : (counted.map Prod.snd).map Block.rows = out.routes.good := by
    have h1 := readAll_rows hcollected
    have h2 := readAll_rows hcounted
    rw [List.map_map] at h1 h2 ⊢
    refine h2.trans (h1.trans ?_)
    exact List.map_id _
  rcases hsave with ⟨-, -, hblocks⟩ | ⟨saved, hsaved, -, hblocks⟩
  · rw [hblocks]
    exact hgood
  · have h3 := readAll_rows hsaved
    rw [hblocks, List.map_map]
    exact h3.trans hgood

/-- A batch without rows does nothing. -/
theorem processBatch_empty {conf : StreamConf} {env : BatchEnv} {maxEventMs : Option ℤ}
    {batch : Frame} {out : BatchRun} (h : processBatch conf env maxEventMs batch = .ok out)
    (hrows : batch.count = 0) :
    out.maxEventMs = maxEventMs ∧ out.routes = ⟨[], [], none, [], []⟩ ∧ out.blocks = [] := by
  rw [processBatch, if_pos hrows] at h
  obtain rfl := Except.ok.inj h
  exact ⟨rfl, rfl, rfl⟩

/-- The cutoff of a mark between 1834 and 2106 is exact. -/
theorem cutoffOf_eq {conf : StreamConf} {m : ℤ}
    (h : |m - conf.allowedLatenessSec * 1000| < 1000 * 2 ^ 32) :
    cutoffOf conf m = .ok ((m - conf.allowedLatenessSec * 1000) * 1000) := by
  have hsmall : |m - conf.allowedLatenessSec * 1000| < 2 ^ 53 := lt_trans h (by norm_num)
  have hle := abs_lt.mp h
  rw [cutoffOf, fromTimestamp, fl_intCast hsmall, secondsToMicros_thousandth h, checkRange, if_pos]
  unfold datetimeMin datetimeMax
  omega

end TripPipeline.Streaming
