import TripPipeline.Common.Dlq
import TripPipeline.Common.Retry
import TripPipeline.Lib.Except
import TripPipeline.Lib.InFlight

/-!
# A run of the producer

`ProducerRunner` of `producer/produce.py`: the send path with its retry, the delivery callback, the
drain of failed payloads, the paced main loop and the shutdown.

The Kafka client is the parameter `Client`: what each `produce` answers, and which delivery reports
each `poll` or `flush` serves, by the number of the client call. So every order of callbacks is a
value of it, and so is every flush that times out. `Runner` has the runner's fields, the client's
queue, the error log as far as it tells of messages, and three histories that no code reads: the
messages accepted, those with a successful callback, and those put on the DLQ topic.
-/

namespace TripPipeline.Producer

open TripPipeline.Common TripPipeline.Lib

/-! ## The client -/

/-- A message the client has accepted, named by the client call that accepted it. -/
structure Sent where
  call : ℕ
  topic : String
  key : PyVal
  payload : String
  /-- `on_delivery` was passed. -/
  onDelivery : Bool

/-- A delivery report: the partition, or `str(err)`. -/
inductive Delivery where
  | delivered (partition : ℤ)
  | failed (err : String)

/-- The client, the wall clock and the random numbers. -/
structure Client where
  /-- What `produce` raises (`none` when it accepts), given the length of the queue. -/
  produce : (call queued : ℕ) → Option Exc
  /-- The reports a `poll` or `flush` serves, in order. -/
  reports : (call : ℕ) → List (ℕ × Delivery)
  /-- The jitter of a retry loop that starts at this call. -/
  draw : (call attempt : ℕ) → ℚ
  /-- `int(time.time() * 1000)`. -/
  nowMs : (call : ℕ) → ℤ

/-- The settings a runner reads. -/
structure Conf where
  topic : String
  dlqTopic : String
  retryCfg : RetryConfig
  codec : JsonCodec
  host : String

/-- The log lines that tell of messages. -/
inductive LogEntry where
  /-- `DLQ WRITE FAILED - EVENT LOST`; `origin` is the message whose payload it was, if the client
  had accepted it on the main topic. -/
  | eventLost (origin : Option Sent) (error : String)
  /-- `%d messages still undelivered after flush`: the number is the length of the queue. -/
  | undelivered (queue : List Sent)

/-- A runner with its client.
Source: `producer/produce.py` `ProducerRunner` -/
structure Runner where
  sent : ℕ
  acked : ℕ
  failed : ℕ
  dlqCount : ℕ
  partitionCounts : Counter ℤ
  /-- `_failed_payloads`: the message whose value is kept, and `str(err)`. -/
  failedPayloads : List (Sent × String)
  retryStats : RetryStats
  /-- The number of client calls so far. -/
  calls : ℕ
  /-- The messages without a served report; `len(producer)` is their number. -/
  queue : List Sent
  log : List LogEntry
  /-- The messages accepted on the main topic. -/
  accepted : List Sent
  /-- The messages with a successful callback. -/
  delivered : List Sent
  /-- The envelopes put on the DLQ topic, each with the message whose payload it carries. -/
  dlqSent : List (Option Sent × DLQRecord)

namespace Runner

/-- A runner at the start. -/
def init : Runner := ⟨0, 0, 0, 0, .empty, [], .init, 0, [], [], [], [], []⟩

variable (client : Client) (conf : Conf)

/-- `self.producer.produce(topic, key=key, value=payload, ...)`. -/
def produce (topic : String) (key : PyVal) (payload : String) (onDelivery : Bool) (s : Runner) :
    Except Exc Sent × Runner :=
  match client.produce s.calls s.queue.length with
  | some e => (.error e, { s with calls := s.calls + 1 })
  | none =>
      let m : Sent := ⟨s.calls, topic, key, payload, onDelivery⟩
      (.ok m, { s with calls := s.calls + 1, queue := s.queue ++ [m] })

/-! ## Callbacks -/

/-- Source: `producer/produce.py` `ProducerRunner._on_delivery` -/
def onDelivery (delivery : Delivery) (m : Sent) (s : Runner) : Runner :=
  match delivery with
  | .failed err =>
      { s with failed := s.failed + 1, failedPayloads := s.failedPayloads ++ [(m, err)] }
  | .delivered partition =>
      { s with
        acked := s.acked + 1
        partitionCounts := s.partitionCounts.add partition 1
        delivered := s.delivered ++ [m] }

/-- What the client does with a served report. -/
def callback (s : Runner) (report : Sent × Delivery) : Runner :=
  if report.1.onDelivery then s.onDelivery report.2 report.1 else s

/-- `self.producer.poll(0)`: the callbacks of the reports served by this call. -/
def poll (s : Runner) : Runner :=
  let (settled, left) := serve Sent.call s.queue (client.reports s.calls)
  settled.foldl callback { s with calls := s.calls + 1, queue := left }

/-- `self.producer.flush(timeout)`: callbacks, until the queue is empty or the time is up. The value
is the number of messages left. -/
def flush (s : Runner) : ℕ × Runner :=
  let s := s.poll client
  (s.queue.length, s)

/-! ## Send paths -/

/-- Source: `producer/produce.py` `ProducerRunner._produce_once` -/
def produceOnce (key : PyVal) (payload : String) (s : Runner) : Except Exc Unit × Runner :=
  match s.produce client conf.topic key payload true with
  | (.ok m, s) => (.ok (), { s with accepted := s.accepted ++ [m] })
  | (.error e, s) => (.error e, s)

/-- Hand a payload to the DLQ topic, or say that it is lost. `origin` is the message it comes from.
Source: `producer/produce.py` `ProducerRunner._to_dlq` -/
def toDlq (origin : Option Sent) (payload reason stage : String) (retries : ℤ) (s : Runner) :
    Runner :=
  let rec' := build conf.codec conf.host (client.nowMs s.calls) payload reason stage retries none
    (some conf.topic) none none 0
  match s.produce client conf.dlqTopic rec'.key (conf.codec.dumps rec'.asdict) false with
  | (.ok _, s) =>
      { s with dlqCount := s.dlqCount + 1, dlqSent := s.dlqSent ++ [(origin, rec')] }
  | (.error e, s) => { s with log := s.log ++ [.eventLost origin e.text] }

/-- One call of `attempt` in `_send`: a full queue is polled before the error goes on. -/
def attempt (key : PyVal) (payload : String) (s : Runner) : Except Exc Unit × Runner :=
  match s.produceOnce client conf key payload with
  | (.ok _, s) => (.ok (), s)
  | (.error e, s) => (.error e, if e.isInstance [.bufferError] then s.poll client else s)

/-- Enqueue with application-level retry around local queue pressure.
Source: `producer/produce.py` `ProducerRunner._send` -/
def send (key : PyVal) (payload : String) (s : Runner) : Except Exc Runner :=
  let run := callWithRetry (fun _ s => s.attempt client conf key payload) conf.retryCfg
    [.bufferError, .kafkaException] [] (client.draw s.calls) s.retryStats s
  let s := { run.state with retryStats := run.stats }
  match run.result with
  | .returned _ => .ok { s with sent := s.sent + 1 }
  | .exhausted attempts e => .ok (s.toDlq client conf none payload e.reason stageProducer attempts)
  | .raised e => .error e

/-- Source: `producer/produce.py` `ProducerRunner._drain_failures` -/
def drainFailures (s : Runner) : Runner :=
  s.failedPayloads.foldl
    (fun s p => s.toDlq client conf (some p.1) p.1.payload p.2 stageProducer
      conf.retryCfg.maxAttempts)
    { s with failedPayloads := [] }

end Runner

/-! ## The main loop -/

/-- The arguments the run reads. -/
structure Args where
  rate : ℚ
  duration : ℚ
  duplicateRatio : ℚ

/-- The event generator: the events in order, and the random numbers drawn for duplicates. -/
structure Gen where
  nextEvent : ℕ → Dict
  random : ℕ → ℚ

/-- What one turn of the main loop reads: `self._running`, the clock in the loop condition, and the
clock in its body. -/
structure Reading where
  running : Bool
  clock : ℚ
  now : ℚ

/-- The variables of the main loop. -/
structure Loop where
  runner : Runner
  generated : ℕ
  dupEmitted : ℕ

/-- The report, as far as it counts. -/
structure Report where
  generated : ℕ
  duplicatesEmitted : ℕ
  acked : ℕ
  deliveryFailures : ℕ
  dlq : ℕ
  appRetryStats : RetryStatsDict
  /-- The counts of `partition_distribution`. -/
  partitionCounts : Counter ℤ

/-- Source: `producer/produce.py` `ProducerRunner._report` -/
def report (generated dupEmitted : ℕ) (s : Runner) : Report where
  generated := generated
  duplicatesEmitted := dupEmitted
  acked := s.acked
  deliveryFailures := s.failed
  dlq := s.dlqCount
  appRetryStats := s.retryStats.asDict
  partitionCounts := s.partitionCounts.sortKeys

section run

variable (client : Client) (conf : Conf) (args : Args) (gen : Gen) (t0 : ℚ)

/-- One event, and its deliberate duplicate. -/
def emit (l : Loop) : Except Exc Loop := do
  let ev := gen.nextEvent l.generated
  let payload := conf.codec.dumps ev
  let runner ← l.runner.send client conf (← Dict.item ev "trip_id") payload
  let l := { l with runner := runner, generated := l.generated + 1 }
  if 0 < args.duplicateRatio ∧ gen.random l.generated < args.duplicateRatio then
    -- `duplicate_of` copies the `dict`
    let dup := ev
    let runner ← l.runner.send client conf (← Dict.item dup "trip_id") (conf.codec.dumps dup)
    .ok { l with runner := runner, dupEmitted := l.dupEmitted + 1 }
  else .ok l

/-- `int((now - t0) * rate) - generated`. -/
def behind (now : ℚ) (generated : ℕ) : ℤ := trunc (fl (fl (now - t0) * args.rate)) - generated

/-- The body of the main loop. -/
def turn (r : Reading) (l : Loop) : Except Exc Loop :=
  let budget := behind args t0 r.now l.generated
  if 0 < args.rate ∧ budget ≤ 0 then .ok { l with runner := l.runner.poll client }
  else do
    let budget := if 0 < args.rate then min budget 2000 else 2000
    let l ← (List.range budget.toNat).foldlM (fun l _ => emit client conf args gen l) l
    .ok { l with runner := (l.runner.poll client).drainFailures client conf }

/-- The main loop; `none` when the readings end before it does. -/
def mainLoop : List Reading → Loop → Except Exc (Option Loop)
  | [], _ => .ok none
  | r :: readings, l =>
      if r.running ∧ r.clock < fl (t0 + args.duration) then do
        mainLoop readings (← turn client conf args gen t0 r l)
      else .ok (some l)

/-- The flush at the end of the main loop, and its warning. -/
def flushWarn (s : Runner) : Runner :=
  let (remaining, s) := s.flush client
  if remaining ≠ 0 then { s with log := s.log ++ [.undelivered s.queue] } else s

/-- The run up to its last flush. -/
def runToLastFlush (readings : List Reading) : Except Exc (Option Loop) := do
  match ← mainLoop client conf args gen t0 readings ⟨.init, 0, 0⟩ with
  | none => .ok none
  | some l =>
      .ok (some { l with runner := (flushWarn client l.runner).drainFailures client conf })

/-- A run: `none` when the readings end before it does.
Source: `producer/produce.py` `ProducerRunner.run` -/
def run (readings : List Reading) : Except Exc (Option (Report × Runner)) := do
  match ← runToLastFlush client conf args gen t0 readings with
  | none => .ok none
  | some l =>
      let s := (l.runner.flush client).2
      .ok (some (report l.generated l.dupEmitted s, s))

end run

end TripPipeline.Producer
