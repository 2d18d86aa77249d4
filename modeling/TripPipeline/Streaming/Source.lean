import TripPipeline.Common.Py

/-!
# From Kafka messages to rows

`TripStream._source` turns a message of `trips.raw` into a row: the text, its coordinates, the
fields of `EVENT_SCHEMA` and the flag `_unparseable`. Spark's `from_json` and `to_timestamp` are not
part of the repository; they are the parameter `SparkSql`, and every result holds for every value
of it.

`Event` is generic in the type of `event_time`, because the column changes its type on the way:
a text after `from_json`, a timestamp (microseconds since the epoch, session time zone UTC) after
`to_timestamp`, a naive UTC `datetime` once the sink reads it (`StreamRow.asDict`).
-/

namespace TripPipeline.Streaming

open TripPipeline.Common

/-- The fields of a trip event; every column is nullable.
Source: `streaming/stream_job.py` `EVENT_SCHEMA` -/
structure Event (τ : Type) where
  eventId : Option String
  tripId : Option String
  eventTime : Option τ
  producedAtMs : Option ℤ
  cityId : Option String
  driverId : Option String
  riderId : Option String
  pickupZoneId : Option ℤ
  dropoffZoneId : Option ℤ
  vehicleClass : Option String
  paymentType : Option String
  distanceKm : Option ℚ
  durationSec : Option ℤ
  fareAmount : Option ℚ
  surgeMultiplier : Option ℚ
  status : Option String
  producerId : Option String
  schemaVersion : Option ℤ

/-- The row of nulls `_parsed.*` gives for a text that does not parse. -/
def Event.nulls (τ : Type) : Event τ :=
  ⟨none, none, none, none, none, none, none, none, none, none, none, none, none, none, none, none,
    none, none⟩

/-- A message of a topic. `value` is the text of its value (`none` for a null value). -/
structure KafkaMessage where
  value : Option String
  topic : String
  partition : ℤ
  offset : ℤ
  /-- The record timestamp, in microseconds since the epoch. -/
  timestamp : ℤ

/-- Spark's decoding functions: `from_json(_, EVENT_SCHEMA)` and `to_timestamp` with session time
zone UTC, in microseconds since the epoch. -/
structure SparkSql where
  fromJson : String → Option (Event String)
  toTimestamp : String → Option ℤ

/-- A row of the stream. -/
structure StreamRow where
  raw : Option String
  topic : String
  partition : ℤ
  offset : ℤ
  kafkaTs : ℤ
  unparseable : Bool
  event : Event ℤ

/-- The row of a message.
Source: `streaming/stream_job.py` `TripStream._source` -/
def source (spark : SparkSql) (m : KafkaMessage) : StreamRow :=
  let parsed := m.value.bind spark.fromJson
  let fields := parsed.getD (Event.nulls String)
  { raw := m.value
    topic := m.topic
    partition := m.partition
    offset := m.offset
    kafkaTs := m.timestamp
    unparseable := parsed.isNone || fields.eventId.isNone
    event := { fields with eventTime := fields.eventTime.bind spark.toTimestamp } }

/-- A row that is not flagged has a text and an event id. -/
theorem source_parseable {spark : SparkSql} {m : KafkaMessage}
    (h : (source spark m).unparseable = false) :
    (source spark m).raw.isSome ∧ (source spark m).event.eventId.isSome := by
  simp only [source, Bool.or_eq_false_iff] at h ⊢
  obtain ⟨hparsed, hid⟩ := h
  constructor
  · cases hv : m.value with
    | none => simp [hv] at hparsed
    | some text => rfl
  · exact Option.isNone_eq_false_iff.mp hid

namespace StreamRow

/-- The naive UTC `datetime` PySpark hands over for a timestamp. -/
def naiveUtc (us : ℤ) : Datetime := ⟨us, none⟩

/-- `spark_row.asDict()`.
Source: `streaming/cassandra_sink.py` `write_partition`, on the columns `_source` selects -/
def asDict (r : StreamRow) : Dict :=
  [("_raw", .ofOption .str r.raw),
   ("_topic", .str r.topic),
   ("_partition", .int r.partition),
   ("_offset", .int r.offset),
   ("_kafka_ts", .datetime (naiveUtc r.kafkaTs)),
   ("_unparseable", .bool r.unparseable),
   ("event_id", .ofOption .str r.event.eventId),
   ("trip_id", .ofOption .str r.event.tripId),
   ("event_time", .ofOption (fun us => .datetime (naiveUtc us)) r.event.eventTime),
   ("produced_at_ms", .ofOption .int r.event.producedAtMs),
   ("city_id", .ofOption .str r.event.cityId),
   ("driver_id", .ofOption .str r.event.driverId),
   ("rider_id", .ofOption .str r.event.riderId),
   ("pickup_zone_id", .ofOption .int r.event.pickupZoneId),
   ("dropoff_zone_id", .ofOption .int r.event.dropoffZoneId),
   ("vehicle_class", .ofOption .str r.event.vehicleClass),
   ("payment_type", .ofOption .str r.event.paymentType),
   ("distance_km", .ofOption .float r.event.distanceKm),
   ("duration_sec", .ofOption .int r.event.durationSec),
   ("fare_amount", .ofOption .float r.event.fareAmount),
   ("surge_multiplier", .ofOption .float r.event.surgeMultiplier),
   ("status", .ofOption .str r.event.status),
   ("producer_id", .ofOption .str r.event.producerId),
   ("schema_version", .ofOption .int r.event.schemaVersion)]

/-- The raw text of a row is a field of its dict. -/
@[simp] theorem get_raw (r : StreamRow) : Dict.get r.asDict "_raw" = .ofOption .str r.raw := rfl

end StreamRow

end TripPipeline.Streaming
