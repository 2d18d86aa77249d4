import TripPipeline.Common.Dlq
import TripPipeline.Common.Retry
import TripPipeline.Streaming.Statements

/-!
# The partition writer

`write_partition` of `streaming/cassandra_sink.py`: the rows of a partition are cut into chunks; a
chunk is validated and built, executed once concurrently, and its failures are retried one by one.
What cannot be written is yielded as a dead letter record; the counters are yielded last.

What the sink cannot decide is the parameter `SinkEnv` of one evaluation: the outcome of every
execution, the clocks, the random draws, the JSON codec. The outcome of an execution is indexed by
the position of its row in the iterator, its table and the number of executions of that statement
before, so a `SinkEnv` is an arbitrary assignment of outcomes to statement attempts.
`execute_concurrent` gives one outcome per request, in request order.

An evaluation ends normally, or with the exception that escaped the retry loop (`Except`). The
`Origin` of a record and the row of a logged execution are not data of the program; they say which
row, and which of its statements, a record or an execution belongs to.

Left out: the rows written to `latency_samples` (a separate table, its result ignored) and the
elapsed time in the stats tuple, which nothing reads.
-/

namespace TripPipeline.Streaming

open TripPipeline.Common TripPipeline.Lib

/-! ## Configuration, environment, outputs -/

/-- Errors worth retrying. -/
def retryable : List ExcType :=
  [.writeTimeout, .unavailable, .operationTimedOut, .noHostAvailable, .connectionError]

/-- Errors that will fail identically forever. -/
def permanent : List ExcType := [.invalidRequest, .typeError, .valueError]

/-- The entries of `conf`, and the `RetryConfig()` the writer reads. -/
structure SinkConf where
  tables : List Table
  chunkSize : ℤ
  sourceTopic : Option String
  retry : RetryConfig

/-- Where a DLQ record comes from: a row (by its position in the iterator), and the table of the
statement that was given up (`none` when the row was refused before any execution). -/
structure Origin where
  row : ℕ
  table : Option Table
  deriving DecidableEq

/-- What one evaluation of the writer meets. -/
structure SinkEnv where
  /-- The outcome of the `n`-th execution (from 0) of the statement of a row for a table. -/
  outcome : (row : ℕ) → Table → (n : ℕ) → Except Exc Unit
  /-- `int(time.time() * 1000)` when the chunk that starts at this row is built. -/
  ingestedAtMs : (row : ℕ) → ℤ
  /-- `int(time.time() * 1000)` when the record of this origin is built. -/
  nowMs : Origin → ℤ
  /-- `sample_rate > 0 and rnd.random() < sample_rate`. -/
  sampled : (row : ℕ) → Bool
  /-- The draws of `random.uniform` for the delays of a statement. -/
  draw : (row : ℕ) → Table → ℕ → ℚ
  codec : JsonCodec
  host : String

/-- One execution of a statement. -/
structure Execution where
  row : ℕ
  statement : Statement
  attempt : ℕ
  ok : Bool

/-- The payload of the stats tuple. -/
structure StatsPayload where
  rowsWritten : ℕ
  dlqEmitted : ℕ
  validationRejects : ℕ
  retriedWrites : ℕ
  retriedWritesRetries : ℕ
  latencySumMs : ℤ
  latencyCount : ℕ
  latencyMaxMs : ℤ
  retryStats : RetryStatsDict

/-- A tuple the writer yields. -/
inductive SinkTuple where
  | dlq (origin : Origin) (key : PyVal) (value : DLQRecord)
  | stats (value : StatsPayload)

/-- The accumulators of the writer. -/
structure SinkState where
  stats : RetryStats
  rowsWritten : ℕ
  dlqEmitted : ℕ
  latencySum : ℤ
  latencyCount : ℕ
  latencyMax : ℤ
  validationRejects : ℕ
  retriedWrites : ℕ
  retriedWritesRetries : ℕ
  yields : List SinkTuple
  log : List Execution

/-- The accumulators at the start. -/
def SinkState.init : SinkState := ⟨.init, 0, 0, 0, 0, 0, 0, 0, 0, [], []⟩

/-- An entry of the `work` list: `(row, key, params)`. -/
structure Work where
  pos : ℕ
  row : StreamRow
  stmt : Statement

/-- The origin of the record a statement leaves when it is given up. -/
def Work.origin (w : Work) : Origin := ⟨w.pos, some w.stmt.key⟩

/-! ## Quarantining a row -/

/-- The DLQ payload of a row: the original Kafka value, kept for this purpose; without one, the
fields re-serialized.
Source: `streaming/cassandra_sink.py` `_row_json` -/
def rowJson (codec : JsonCodec) (r : StreamRow) : String :=
  match r.raw with
  | some raw =>
      if raw ≠ "" then raw
      else codec.dumps (r.asDict.filter fun kv => kv.1.toList.head? ≠ some '_')
  | none => codec.dumps (r.asDict.filter fun kv => kv.1.toList.head? ≠ some '_')

/-- The record of a row: `dlqmod.build(_row_json(row), reason, stage, retry_count=...)`. -/
def sinkRecord (env : SinkEnv) (conf : SinkConf) (o : Origin) (r : StreamRow)
    (reason stage : String) (retryCount : ℕ) : DLQRecord :=
  build env.codec env.host (env.nowMs o) (rowJson env.codec r) reason stage retryCount
    none conf.sourceTopic none none 0

/-- `dlq_emitted += 1; rec = dlqmod.build(...); yield ("dlq", rec.event_id or "unknown", ...)`. -/
def SinkState.quarantine (s : SinkState) (env : SinkEnv) (conf : SinkConf) (o : Origin)
    (r : StreamRow) (reason stage : String) (retryCount : ℕ) : SinkState :=
  let rec' := sinkRecord env conf o r reason stage retryCount
  { s with
    dlqEmitted := s.dlqEmitted + 1
    yields := s.yields ++ [.dlq o rec'.key rec'] }

/-! ## The three phases of a chunk -/

/-- The latency sample of a row. -/
def SinkState.sample (s : SinkState) (env : SinkEnv) (pos : ℕ) (r : StreamRow)
    (ingestedAtMs : ℤ) : SinkState :=
  let lat := ingestedAtMs - r.event.producedAtMs.getD 0
  if env.sampled pos ∧ 0 ≤ lat then
    { s with
      latencySum := s.latencySum + lat
      latencyCount := s.latencyCount + 1
      latencyMax := max s.latencyMax lat }
  else s

/-- Build phase, one row: its statements join the work list, or the row is quarantined. -/
def buildRow (env : SinkEnv) (conf : SinkConf) (ingestedAtMs : ℤ) (acc : SinkState × List Work)
    (item : StreamRow × ℕ) : SinkState × List Work :=
  match buildStatements item.1.asDict conf.tables ingestedAtMs with
  | .ok stmts =>
      (acc.1.sample env item.2 item.1 ingestedAtMs, acc.2 ++ stmts.map (⟨item.2, item.1, ·⟩))
  | .error e =>
      if e.isInstance [.permanentDefect] then
        let s := acc.1.quarantine env conf ⟨item.2, none⟩ item.1 ("PermanentDefect: " ++ e.text)
          stageParse 0
        ({ s with validationRejects := s.validationRejects + 1 }, acc.2)
      else (acc.1.quarantine env conf ⟨item.2, none⟩ item.1 e.reason stageParse 0, acc.2)

/-- Fast path, one statement: its first execution. -/
def fastPath (env : SinkEnv) (acc : SinkState × List (Work × Exc)) (w : Work) :
    SinkState × List (Work × Exc) :=
  let s := acc.1
  match env.outcome w.pos w.stmt.key 0 with
  | .ok () =>
      ({ s with
        stats := { s.stats with
          attempts := s.stats.attempts + 1
          successes := s.stats.successes + 1 }
        rowsWritten := s.rowsWritten + 1
        log := s.log ++ [⟨w.pos, w.stmt, 0, true⟩] }, acc.2)
  | .error e =>
      ({ s with
        stats := { s.stats with attempts := s.stats.attempts + 1 }.recordReason e
        log := s.log ++ [⟨w.pos, w.stmt, 0, false⟩] }, acc.2 ++ [(w, e)])

/-- The retry path gets one attempt less than the budget: the fast path has spent the first. -/
def retryPolicy (cfg : RetryConfig) : RetryConfig :=
  { cfg with maxAttempts := max 1 (cfg.maxAttempts - 1) }

/-- `session.execute(prepared[key], params)`, the `k`-th time in the retry loop: the `(k+1)`-th
execution of the statement. -/
def execute (env : SinkEnv) (w : Work) (k : ℕ) (log : List Execution) :
    Except Exc Unit × List Execution :=
  (env.outcome w.pos w.stmt.key (k + 1),
    log ++ [⟨w.pos, w.stmt, k + 1, (env.outcome w.pos w.stmt.key (k + 1)).isOk⟩])

/-- Retry path, one failure. An exception outside `retryable` and `permanent` escapes. -/
def retryPath (env : SinkEnv) (conf : SinkConf) (s : SinkState) (f : Work × Exc) :
    Except Exc SinkState :=
  let w := f.1
  if f.2.isInstance permanent then
    .ok (s.quarantine env conf w.origin w.row f.2.reason stageCassandraSink 0)
  else
    let run := callWithRetry (execute env w) (retryPolicy conf.retry) retryable permanent
      (env.draw w.pos w.stmt.key) RetryStats.init s.log
    let s := { s with log := run.state }
    match run.result with
    | .raised e => .error e
    | .exhausted attempts last =>
        let s := s.quarantine env conf w.origin w.row last.reason stageCassandraSink (attempts + 1)
        .ok { s with stats := s.stats.merge run.stats }
    | .returned () =>
        let stats := s.stats.merge run.stats
        .ok { s with
          stats := { stats with retriesBeforeSuccess := stats.retriesBeforeSuccess + 1 }
          rowsWritten := s.rowsWritten + 1
          retriedWrites := s.retriedWrites + 1
          retriedWritesRetries := s.retriedWritesRetries + (run.stats.retriesBeforeSuccess + 1) }

/-- The `ingested_at_ms` of a chunk. -/
def chunkTime (env : SinkEnv) (chunk : List (StreamRow × ℕ)) : ℤ :=
  env.ingestedAtMs ((chunk.head?.map Prod.snd).getD 0)

/-- One turn of the loop over the chunks. -/
def writeChunk (env : SinkEnv) (conf : SinkConf) (s : SinkState) (chunk : List (StreamRow × ℕ)) :
    Except Exc SinkState :=
  let (s, work) := chunk.foldl (buildRow env conf (chunkTime env chunk)) (s, [])
  if work.isEmpty then .ok s
  else
    let (s, failures) := work.foldl (fastPath env) (s, [])
    failures.foldlM (retryPath env conf) s

/-! ## The writer -/

/-- The stats tuple of the final accumulators. -/
def SinkState.payload (s : SinkState) : StatsPayload where
  rowsWritten := s.rowsWritten
  dlqEmitted := s.dlqEmitted
  validationRejects := s.validationRejects
  retriedWrites := s.retriedWrites
  retriedWritesRetries := s.retriedWritesRetries
  latencySumMs := s.latencySum
  latencyCount := s.latencyCount
  latencyMaxMs := s.latencyMax
  retryStats := s.stats.asDict

/-- What an evaluation of the writer yields, and the statements it executed. -/
structure PartitionRun where
  yields : List SinkTuple
  log : List Execution

/-- Write a partition's rows to Cassandra.
Source: `streaming/cassandra_sink.py` `write_partition` -/
def writePartition (env : SinkEnv) (conf : SinkConf) (rows : List StreamRow) :
    Except Exc PartitionRun := do
  let s ← (batched conf.chunkSize rows.zipIdx).foldlM (writeChunk env conf) SinkState.init
  .ok ⟨s.yields ++ [.stats s.payload], s.log⟩

end TripPipeline.Streaming
