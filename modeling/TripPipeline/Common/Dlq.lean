import TripPipeline.Common.Py

/-!
# The dead letter envelope

`common/dlq.py`: the record every quarantining component writes (`DLQRecord`) and the function that
makes it (`build`). The envelope carries the failed payload as text; what the drain reads back is
the object `asdict` gives.

The envelope's `replay_count` is an argument of `build` with default 0. No caller in the repository
passes another value: see `TripPipeline.Replay.Cycle`.
-/

namespace TripPipeline.Common

/-- `STAGE_PRODUCER`. -/
def stageProducer : String := "producer"
/-- `STAGE_CASSANDRA_SINK`. -/
def stageCassandraSink : String := "cassandra_sink"
/-- `STAGE_PARSE`. -/
def stageParse : String := "parse"
/-- `STAGE_LATE`. -/
def stageLate : String := "late_event"

/-- `DLQ_SCHEMA_VERSION`. -/
def dlqSchemaVersion : ℤ := 1

/-- The envelope of a quarantined event.
Source: `common/dlq.py` `DLQRecord` -/
structure DLQRecord where
  originalPayload : String
  failureReason : String
  failureStage : String
  retryCount : ℤ
  firstFailedAtMs : ℤ
  quarantinedAtMs : ℤ
  /-- `event_id` as the payload has it: any JSON value, `none` when it cannot be read. -/
  eventId : PyVal
  sourceTopic : Option String
  sourcePartition : Option ℤ
  sourceOffset : Option ℤ
  replayCount : ℤ
  host : String
  schemaVersion : ℤ

/-- `payload.get(key)` on a decoded payload, for payloads that are objects. -/
def payloadGet (payload : Option PyVal) (key : String) : PyVal :=
  match payload with
  | some (.dict kvs) => Dict.get kvs key
  | _ => .none

/-- The envelope of `payload`. `now` is `int(time.time() * 1000)`.
Source: `common/dlq.py` `build` -/
def build (codec : JsonCodec) (host : String) (now : ℤ) (payload reason stage : String)
    (retryCount : ℤ) (firstFailedAtMs : Option ℤ) (sourceTopic : Option String)
    (sourcePartition sourceOffset : Option ℤ) (replayCount : ℤ) : DLQRecord where
  originalPayload := payload
  failureReason := String.ofList (reason.toList.take 2000)
  failureStage := stage
  retryCount := retryCount
  firstFailedAtMs := if firstFailedAtMs.getD 0 = 0 then now else firstFailedAtMs.getD 0
  quarantinedAtMs := now
  eventId := payloadGet (codec.loads payload) "event_id"
  sourceTopic := sourceTopic
  sourcePartition := sourcePartition
  sourceOffset := sourceOffset
  replayCount := replayCount
  host := host
  schemaVersion := dlqSchemaVersion

/-- `rec.event_id or "unknown"`: the key of the DLQ message. -/
def DLQRecord.key (r : DLQRecord) : PyVal := r.eventId.orElse (.str "unknown")

/-- `asdict(rec)`, the object `to_json` writes and the drain reads back. -/
def DLQRecord.asdict (r : DLQRecord) : Dict :=
  [("original_payload", .str r.originalPayload),
   ("failure_reason", .str r.failureReason),
   ("failure_stage", .str r.failureStage),
   ("retry_count", .int r.retryCount),
   ("first_failed_at_ms", .int r.firstFailedAtMs),
   ("quarantined_at_ms", .int r.quarantinedAtMs),
   ("event_id", r.eventId),
   ("source_topic", .ofOption .str r.sourceTopic),
   ("source_partition", .ofOption .int r.sourcePartition),
   ("source_offset", .ofOption .int r.sourceOffset),
   ("replay_count", .int r.replayCount),
   ("host", .str r.host),
   ("dlq_schema_version", .int r.schemaVersion)]

namespace DLQRecord

variable (r : DLQRecord)

/-- The stage of a record is a field of its dict. -/
@[simp] theorem get_failureStage : Dict.get r.asdict "failure_stage" = .str r.failureStage := rfl

/-- The replay count of a record is a field of its dict. -/
@[simp] theorem get_replayCount : Dict.get r.asdict "replay_count" = .int r.replayCount := rfl

/-- The event id of a record is a field of its dict. -/
@[simp] theorem get_eventId : Dict.get r.asdict "event_id" = r.eventId := rfl

/-- The payload of a record can be read from its dict. -/
@[simp] theorem item_originalPayload :
    Dict.item r.asdict "original_payload" = .ok (.str r.originalPayload) := rfl

end DLQRecord

end TripPipeline.Common
