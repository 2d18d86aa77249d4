import TripPipeline.Streaming.StatsText

/-!
# What the stream job writes down

Two files that others read while they grow, a JSON object a line: the report of every batch, and the
samples of the lag monitor.

* `Recorded.toDict`: the report of a batch.
* `LagSample.toDict`: a sample.
-/

namespace TripPipeline.Streaming

open TripPipeline.Common TripPipeline.Lib

/-- The merged counters as `agg` has them, but for the reasons. -/
def Agg.toDict (a : Agg) : Dict :=
  [("rows_written", .int a.rowsWritten), ("dlq_emitted", .int a.dlqEmitted),
   ("validation_rejects", .int a.validationRejects), ("retried_writes", .int a.retriedWrites),
   ("retried_writes_retries", .int a.retriedWritesRetries),
   ("latency_sum_ms", .int a.latencySumMs), ("latency_count", .int a.latencyCount),
   ("latency_max_ms", .int a.latencyMaxMs), ("attempts", .int a.attempts),
   ("successes", .int a.successes), ("failures_exhausted", .int a.failuresExhausted),
   ("retries_before_success", .int a.retriesBeforeSuccess),
   ("total_backoff_ms", .float a.totalBackoffMs)]

/-- A batch that was recorded: its number, the clock, how long it took, and its report. -/
structure Recorded where
  batchId : ℤ
  wallTs : ℚ
  seconds : ℚ
  report : BatchReport

/-- The report of a batch.
Source: `streaming/stream_job.py` `TripStream._record_batch` -/
def Recorded.toDict (r : Recorded) : Dict :=
  [("batch_id", .int r.batchId),
   ("wall_ts", .float r.wallTs),
   ("input_rows", .int r.report.inputRows),
   ("unparseable", .int r.report.unparseable),
   ("late", .int r.report.late),
   ("dlq", .int r.report.dlq),
   ("batch_seconds", .float (roundPlaces 4 r.seconds)),
   ("rows_per_sec",
     if 0 < r.seconds then .float (roundPlaces 1 (fl (fl r.report.inputRows / r.seconds)))
     else .int 0)] ++
  r.report.agg.toDict ++ [("failure_reasons", .dict (reasonsDict r.report.agg.failureReasons))]

/-- The fields of a report have distinct names. -/
theorem Recorded.nodup_keys (r : Recorded) : (r.toDict.map Prod.fst).Nodup := by
  have hkeys : r.toDict.map Prod.fst =
      ["batch_id", "wall_ts", "input_rows", "unparseable", "late", "dlq", "batch_seconds",
       "rows_per_sec", "rows_written", "dlq_emitted", "validation_rejects", "retried_writes",
       "retried_writes_retries", "latency_sum_ms", "latency_count", "latency_max_ms", "attempts",
       "successes", "failures_exhausted", "retries_before_success", "total_backoff_ms",
       "failure_reasons"] := rfl
  rw [hkeys]
  decide +kernel

/-- What the lag monitor reads of the last progress of the query. -/
structure LagSample where
  wallTs : ℚ
  batchId : PyVal
  inputRowsPerSecond : PyVal
  processedRowsPerSecond : PyVal
  batchDurationMs : PyVal
  maxOffsetsBehind : ℤ
  minOffsetsBehind : ℤ
  avgOffsetsBehind : ℚ

/-- Source: `streaming/stream_job.py` `TripStream._lag_monitor` -/
def LagSample.toDict (s : LagSample) : Dict :=
  [("wall_ts", .float s.wallTs),
   ("batch_id", s.batchId),
   ("input_rows_per_second", s.inputRowsPerSecond),
   ("processed_rows_per_second", s.processedRowsPerSecond),
   ("batch_duration_ms", s.batchDurationMs),
   ("max_offsets_behind", .int s.maxOffsetsBehind),
   ("min_offsets_behind", .int s.minOffsetsBehind),
   ("avg_offsets_behind", .float s.avgOffsetsBehind)]

/-- The fields of a sample have distinct names. -/
theorem LagSample.nodup_keys (s : LagSample) : (s.toDict.map Prod.fst).Nodup := by
  have hkeys : s.toDict.map Prod.fst =
      ["wall_ts", "batch_id", "input_rows_per_second", "processed_rows_per_second",
       "batch_duration_ms", "max_offsets_behind", "min_offsets_behind", "avg_offsets_behind"] := rfl
  rw [hkeys]
  decide +kernel

end TripPipeline.Streaming
