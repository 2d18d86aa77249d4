import TripPipeline.Common.PyJson
import TripPipeline.Replay.Blocking
import TripPipeline.Replay.Leftover
import TripPipeline.Streaming.Sink

/-!
# A quarantined payload comes back as it was

The value of an event is a JSON text. The quarantining component decodes it and puts the text into
an envelope, which is a JSON text again; the drain reads the envelope, parses the payload for its
key, and publishes the payload. Four components, and no text is ever built anew.

* `TripEvent` is an event of the generator, with its key and its value.
* `QuarantineOf`: the envelopes the sink and the producer make of a value.
* `toRecord_quarantine`: what the drain reads of such an envelope.
* `republished_verbatim`: what it publishes has the key and the bytes of the event.
-/

namespace TripPipeline.Replay

open TripPipeline.Common TripPipeline.Lib
open TripPipeline.Streaming

/-! ## Events -/

/-- An event of the generator. The trip id is a UUID, so it is not empty; an injected defect leaves
out the fare.
Source: `producer/events.py` `TripGenerator.next_event` -/
structure TripEvent where
  eventId : String
  tripId : String
  eventTime : String
  producedAtMs : ℤ
  cityId : String
  driverId : String
  riderId : String
  pickupZoneId : ℤ
  dropoffZoneId : ℤ
  vehicleClass : String
  paymentType : String
  distanceKm : ℚ
  durationSec : ℤ
  fareAmount : Option ℚ
  surgeMultiplier : ℚ
  status : String
  producerId : String
  schemaVersion : ℤ
  tripId_ne : tripId ≠ ""

/-- The keys of an event without a defect. -/
def eventFields : List String :=
  ["event_id", "trip_id", "event_time", "produced_at_ms", "city_id", "driver_id", "rider_id",
   "pickup_zone_id", "dropoff_zone_id", "vehicle_class", "payment_type", "distance_km",
   "duration_sec", "fare_amount", "surge_multiplier", "status", "producer_id", "schema_version"]

namespace TripEvent

variable (e : TripEvent)

/-- The dictionary of an event. -/
def asDict : Dict :=
  [("event_id", .str e.eventId), ("trip_id", .str e.tripId), ("event_time", .str e.eventTime),
   ("produced_at_ms", .int e.producedAtMs), ("city_id", .str e.cityId),
   ("driver_id", .str e.driverId), ("rider_id", .str e.riderId),
   ("pickup_zone_id", .int e.pickupZoneId), ("dropoff_zone_id", .int e.dropoffZoneId),
   ("vehicle_class", .str e.vehicleClass), ("payment_type", .str e.paymentType),
   ("distance_km", .float e.distanceKm), ("duration_sec", .int e.durationSec),
   ("fare_amount", .ofOption .float e.fareAmount), ("surge_multiplier", .float e.surgeMultiplier),
   ("status", .str e.status), ("producer_id", .str e.producerId),
   ("schema_version", .int e.schemaVersion)] ++
  if e.fareAmount.isNone then [("_injected_defect", .str "null_fare_amount")] else []

/-- `json.dumps(ev, separators=(",", ":"))`. -/
def text (codec : JsonCodec) : String := codec.dumps e.asDict

/-- The value of the message; its key is the trip id. -/
def value (codec : JsonCodec) : ByteArray := (e.text codec).toByteArray

/-- The fields of an event have distinct names. -/
theorem nodup_keys : (e.asDict.map Prod.fst).Nodup := by
  have hkeys : e.asDict.map Prod.fst = eventFields ++
      if e.fareAmount.isNone then ["_injected_defect"] else [] := by
    unfold asDict
    split_ifs <;> rfl
  rw [hkeys]
  split_ifs
  · decide +kernel
  · decide +kernel

end TripEvent

/-! ## Envelopes -/

/-- The envelopes a component makes of a message's value.
Source: `streaming/cassandra_sink.py` `write_partition`, `producer/produce.py` `_to_dlq` -/
inductive QuarantineOf (codec : JsonCodec) (value : ByteArray) : DLQRecord → Prop
  /-- The sink has the value as the text `_raw`. -/
  | sink {env : SinkEnv} {conf : SinkConf} {o : Origin} {r : StreamRow} {reason : String}
      {retryCount : ℕ} (hcodec : env.codec = codec) (hraw : r.raw = String.fromUTF8? value) :
      QuarantineOf codec value (sinkRecord env conf o r reason stageCassandraSink retryCount)
  /-- The producer decodes the value. -/
  | producer {host text reason topic : String} {now retries : ℤ}
      (htext : String.fromUTF8? value = some text) :
      QuarantineOf codec value
        (build codec host now text reason stageProducer retries none (some topic) none none 0)

/-- `rec.to_json()`, as the bytes of a DLQ message. -/
def toJsonBytes (codec : JsonCodec) (rec : DLQRecord) : ByteArray :=
  (codec.dumps rec.asdict).toByteArray

/-- What the drain looks at in an envelope. -/
structure Holds (rec : DLQRecord) (payload stage : String) (eventId : PyVal) : Prop where
  originalPayload : rec.originalPayload = payload
  failureStage : rec.failureStage = stage
  eventId_eq : rec.eventId = eventId
  replayCount : rec.replayCount = 0

/-- An envelope holds what it was built from. -/
theorem holds_build (codec : JsonCodec) (host : String) (now : ℤ) (payload reason stage : String)
    (retryCount : ℤ) (firstFailedAtMs : Option ℤ) (sourceTopic : Option String)
    (sourcePartition sourceOffset : Option ℤ) :
    Holds (build codec host now payload reason stage retryCount firstFailedAtMs sourceTopic
      sourcePartition sourceOffset 0) payload stage (payloadGet (codec.loads payload) "event_id") :=
  ⟨rfl, rfl, rfl, rfl⟩

section quarantine

variable {floats : Floats} {other : PyVal → String} {e : TripEvent} {rec : DLQRecord}

/-- The text of an event parses to its dict. -/
theorem loads_text : (pyJson floats other).loads (e.text (pyJson floats other)) =
    some (.dict (e.asDict.map fun kv => (kv.1, reread floats other kv.2))) :=
  loads_dumps e.nodup_keys

/-- The bytes of an event decode to its text. -/
theorem fromUTF8?_value :
    String.fromUTF8? (e.value (pyJson floats other)) = some (e.text (pyJson floats other)) :=
  fromUTF8?_toByteArray _

/-- The text of an event is not empty. -/
theorem text_ne_empty : e.text (pyJson floats other) ≠ "" := by
  intro hempty
  have h : (pyJson floats other).loads (e.text (pyJson floats other)) = some _ := loads_text
  rw [hempty] at h
  cases h

/-- The event id is read from the text of an event. -/
theorem payloadGet_text :
    payloadGet ((pyJson floats other).loads (e.text (pyJson floats other))) "event_id" =
      .str e.eventId := by
  rw [loads_text, payloadGet, get_reread]
  rfl

/-- **What an envelope of the event holds.** -/
theorem QuarantineOf.holds
    (h : QuarantineOf (pyJson floats other) (e.value (pyJson floats other)) rec) :
    ∃ stage ∈ reinjectStages, Holds rec (e.text (pyJson floats other)) stage (.str e.eventId) := by
  cases h with
  | sink hcodec hraw =>
      rename_i env conf o r reason retryCount
      rw [fromUTF8?_value] at hraw
      have hrow : rowJson env.codec r = e.text (pyJson floats other) := by
        unfold rowJson
        rw [hraw]
        exact if_pos text_ne_empty
      refine ⟨stageCassandraSink, List.mem_cons_self, ?_⟩
      unfold sinkRecord
      rw [hrow, hcodec, ← payloadGet_text]
      exact holds_build _ _ _ _ _ _ _ _ _ _ _
  | producer htext =>
      rw [fromUTF8?_value] at htext
      obtain rfl := Option.some.inj htext
      refine ⟨stageProducer, List.mem_cons_of_mem _ List.mem_cons_self, ?_⟩
      rw [← payloadGet_text]
      exact holds_build _ _ _ _ _ _ _ _ _ _ _

/-- An envelope is read back as it was. -/
theorem loads_asdict {id : String} (h : rec.eventId = .str id) :
    (pyJson floats other).loads ((pyJson floats other).dumps rec.asdict) =
      some (.dict rec.asdict) := by
  have hnodup : (rec.asdict.map Prod.fst).Nodup := by
    have hkeys : rec.asdict.map Prod.fst = ["original_payload", "failure_reason", "failure_stage",
      "retry_count", "first_failed_at_ms", "quarantined_at_ms", "event_id", "source_topic",
      "source_partition", "source_offset", "replay_count", "host", "dlq_schema_version"] := rfl
    rw [hkeys]
    decide +kernel
  have htext : ∀ o : Option String, reread floats other (.ofOption .str o) = .ofOption .str o :=
    reread_ofOption reread_str
  have hint : ∀ o : Option ℤ, reread floats other (.ofOption .int o) = .ofOption .int o :=
    reread_ofOption reread_int
  rw [loads_dumps hnodup]
  simp [DLQRecord.asdict, h, htext, hint]

/-- **What the drain reads of an envelope.** -/
theorem toRecord_quarantine {replacing : ByteArray → String} {id : String}
    (h : rec.eventId = .str id) (l : Loc) :
    (DlqValue.ofBytes (pyJson floats other) replacing
      (some (toJsonBytes (pyJson floats other) rec))).toRecord l =
        .ok ⟨l, Dict.set "_offset" (.int l.offset)
          (Dict.set "_partition" (.int l.partition) rec.asdict)⟩ := by
  rw [DlqValue.ofBytes, toJsonBytes, fromUTF8?_toByteArray, Option.bind_some, loads_asdict h]
  rfl

variable {env : DrainEnv} {l : Loc}

/-- The record the drain has of an envelope. -/
def recordOf (rec : DLQRecord) (l : Loc) : DlqRead :=
  ⟨l, Dict.set "_offset" (.int l.offset) (Dict.set "_partition" (.int l.partition) rec.asdict)⟩

/-- A record has the fields of its envelope, and its place besides. -/
theorem lookup_recordOf {field : String} (hpart : field ≠ "_partition") (hoff : field ≠ "_offset") :
    (recordOf rec l).fields.lookup field = rec.asdict.lookup field := by
  unfold recordOf
  dsimp only
  rw [Dict.lookup_set, if_neg hoff, Dict.lookup_set, if_neg hpart]

/-- The key of an event is found in its payload. -/
theorem tripId_orElse (v : PyVal) :
    (Dict.get (e.asDict.map fun kv => (kv.1, reread floats other kv.2)) "trip_id").orElse v =
      .str e.tripId := by
  have hget : Dict.get (e.asDict.map fun kv => (kv.1, reread floats other kv.2)) "trip_id" =
      .str e.tripId := by
    rw [get_reread]
    rfl
  have htruthy : (PyVal.str e.tripId).truthy = true := decide_eq_true e.tripId_ne
  rw [hget, PyVal.orElse, if_pos htruthy]

/-- **What a turn of the re-inject loop makes of an envelope.** -/
theorem reinjectOne_quarantine (hcodec : env.codec = pyJson floats other)
    {stage : String} {v : PyVal} (h : Holds rec (e.text (pyJson floats other)) stage v)
    {p : Produced} :
    reinjectOne env (recordOf rec l) = .ok p ↔ env.produce l = .ok () ∧
      p = ⟨l, e.tripId, e.text (pyJson floats other), env.delivery l⟩ := by
  have hlookup : (recordOf rec l).fields.lookup "original_payload" =
      some (.str (e.text (pyJson floats other))) := by
    rw [lookup_recordOf (by decide) (by decide), ← h.originalPayload]
    rfl
  have hloc : (recordOf rec l).loc = l := rfl
  rw [reinjectOne_ok_iff, hlookup, hcodec, hloc]
  constructor
  · rintro ⟨text, kvs, key, htext, hloads, hkey, hproduce, rfl⟩
    obtain rfl := PyVal.str.inj (Option.some.inj htext)
    rw [loads_text] at hloads
    obtain rfl := PyVal.dict.inj (Option.some.inj hloads)
    rw [tripId_orElse] at hkey
    obtain rfl := PyVal.str.inj hkey
    exact ⟨hproduce, rfl⟩
  · rintro ⟨hproduce, rfl⟩
    exact ⟨_, _, _, rfl, loads_text, tripId_orElse _, hproduce, rfl⟩

/-- An envelope goes to the re-inject list. -/
theorem classify_quarantine {maxReplays : ℤ} (hmax : 0 < maxReplays) {payload stage : String}
    {v : PyVal} (hstage : stage ∈ reinjectStages) (h : Holds rec payload stage v) :
    classify env maxReplays (recordOf rec l) = .ok .reinject := by
  have hcount : (recordOf rec l).fields.lookup "replay_count" = some (.int 0) := by
    rw [lookup_recordOf (by decide) (by decide), ← h.replayCount]
    rfl
  have hstage' : (recordOf rec l).fields.lookup "failure_stage" = some (.str stage) := by
    rw [lookup_recordOf (by decide) (by decide), ← h.failureStage]
    rfl
  rw [classify_eq hcount hstage', if_neg (not_le.mpr hmax), if_pos (by simpa using hstage)]

end quarantine

/-! ## The drain -/

section drain

variable {floats : Floats} {other : PyVal → String} {e : TripEvent} {rec : DLQRecord}
  {replacing : ByteArray → String} {args : DrainArgs} {env : DrainEnv}
  {topic : Topic (Option ByteArray)} {run : DrainRun} {l : Loc}

/-- The record the drain has of a message that is an envelope of the event. -/
theorem read_quarantine
    (hreads : readAll (decodeTopic (pyJson floats other) replacing topic) env.polls args.limit =
      .ok run.read)
    {id : String} (hid : rec.eventId = .str id)
    (hmessage : (topic l.partition)[l.offset]? =
      some (some (toJsonBytes (pyJson floats other) rec)))
    {r : DlqRead} (hr : r ∈ run.read) (hloc : r.loc = l) : r = recordOf rec l := by
  obtain ⟨pos, hread⟩ := readAll_readUpTo hreads
  obtain ⟨value, hvalue, hrecord⟩ := hread.decoded r hr
  rw [hloc, decodeTopic, List.getElem?_map, hmessage] at hvalue
  rw [← Option.some.inj hvalue, toRecord_quarantine hid, hloc] at hrecord
  exact (Except.ok.inj hrecord).symm

/-- **A quarantined event is republished as it was**: what the drain hands to the client for its
envelope has the key and the bytes of the event. It is handed over whenever the drain reads the
envelope, replays are allowed at all and the client accepts it. -/
theorem republished_verbatim
    (hrun : drain args env (decodeTopic (pyJson floats other) replacing topic) = .ok run)
    (hdry : args.dryRun = false) (hcodec : env.codec = pyJson floats other)
    (hrec : QuarantineOf (pyJson floats other) (e.value (pyJson floats other)) rec)
    (hmessage : (topic l.partition)[l.offset]? =
      some (some (toJsonBytes (pyJson floats other) rec))) :
    (∀ p ∈ run.produced, p.loc = l →
        p.key = e.tripId ∧ p.value.toByteArray = e.value (pyJson floats other)) ∧
      (l ∈ run.read.map DlqRead.loc → 0 < args.maxReplays → env.produce l = .ok () →
        ∃ p ∈ run.produced, p.loc = l) := by
  obtain ⟨stage, hstage, hholds⟩ := hrec.holds
  have hdrained := drain_drained hrun hdry
  have hrecord : ∀ r ∈ run.read, r.loc = l → r = recordOf rec l :=
    fun r hr hloc => read_quarantine hdrained.reads hholds.eventId_eq hmessage hr hloc
  rw [hdrained.produced, routeRecords_reinject hdrained.routed]
  constructor
  · intro p hp hloc
    obtain ⟨r, hr, hone⟩ := mem_reinjectAll.mp hp
    have hrloc : r.loc = l := (reinjectOne_ok hone).1.symm.trans hloc
    rw [hrecord r (List.mem_of_mem_filter hr) hrloc] at hone
    obtain ⟨-, rfl⟩ := (reinjectOne_quarantine hcodec hholds).mp hone
    exact ⟨rfl, rfl⟩
  · intro hread hmax hproduce
    obtain ⟨r, hr, hrloc⟩ := List.mem_map.mp hread
    obtain rfl := hrecord r hr hrloc
    refine ⟨_, mem_reinjectAll.mpr ⟨recordOf rec l, List.mem_filter.mpr ⟨hr, ?_⟩,
      (reinjectOne_quarantine hcodec hholds).mpr ⟨hproduce, rfl⟩⟩, rfl⟩
    rw [classify_quarantine hmax hstage hholds]
    rfl

end drain

/-! ## One event -/

/-- The spelling of the three floats of the event. -/
def sampleFloats : Floats where
  repr x :=
    if x = 7 / 2 then ⟨"3.5".toList, by decide⟩
    else if x = 25 / 2 then ⟨"12.5".toList, by decide⟩
    else ⟨"1.0".toList, by decide⟩
  read text :=
    if text.1 = "3.5".toList then .float (7 / 2)
    else if text.1 = "12.5".toList then .float (25 / 2)
    else .float 1

/-- The codec of the event. -/
abbrev tripCodec : JsonCodec := pyJson sampleFloats fun _ => ""

/-- An event of a producer whose name is hard to write down. -/
def sampleTrip : TripEvent where
  eventId := "00000000-0000-4000-8000-000000000001"
  tripId := "00000000-0000-4000-8000-000000000002"
  eventTime := "2023-11-14T22:13:20.000Z"
  producedAtMs := 1700000001000
  cityId := "nyc"
  driverId := "d-000001"
  riderId := "r-000001"
  pickupZoneId := 4
  dropoffZoneId := 7
  vehicleClass := "comfort"
  paymentType := "card"
  distanceKm := 7 / 2
  durationSec := 600
  fareAmount := some (25 / 2)
  surgeMultiplier := 1
  status := "completed"
  producerId := "\"p\\1\" \u00e9\n"
  schemaVersion := 1
  tripId_ne := by decide

/-- Its envelope, when the broker timed out. -/
def sampleEnvelope : DLQRecord :=
  build tripCodec "host" 1700000002000 (sampleTrip.text tripCodec) "timed out" stageProducer 4
    none (some "trips.raw") none none 0

/-- The sample envelope quarantines the sample event. -/
theorem quarantineOf_sample : QuarantineOf tripCodec (sampleTrip.value tripCodec) sampleEnvelope :=
  .producer fromUTF8?_value

/-- The topic that holds one envelope. -/
def envelopeTopic (codec : JsonCodec) (rec : DLQRecord) : Topic (Option ByteArray) :=
  fun p => if p = 0 then [some (toJsonBytes codec rec)] else []

section envelope

variable {floats : Floats} {other : PyVal → String} {rec : DLQRecord}

/-- Reading a topic of one envelope reads that one. -/
theorem readAll_envelope {id : String} (hid : rec.eventId = .str id) :
    readAll (decodeTopic (pyJson floats other) (fun _ => "")
      (envelopeTopic (pyJson floats other) rec)) calmEnv.polls 0 = .ok [recordOf rec ⟨0, 0⟩] := by
  have hrecord : (DlqValue.ofBytes (pyJson floats other) (fun _ => "")
      (some (toJsonBytes (pyJson floats other) rec))).toRecord ⟨0, 0⟩ = .ok _ :=
    toRecord_quarantine hid ⟨0, 0⟩
  have hmessages : decodeTopic (pyJson floats other) (fun _ => "")
      (envelopeTopic (pyJson floats other) rec) 0 =
        [DlqValue.ofBytes (pyJson floats other) (fun _ => "")
          (some (toJsonBytes (pyJson floats other) rec))] := rfl
  unfold readAll readAllFrom calmEnv
  simp [readLoop, hmessages, hrecord, bind, Except.bind, recordOf]

/-- A drain of one envelope returns. -/
theorem exists_drain_envelope {payload stage id : String} (hstage : stage ∈ reinjectStages)
    (h : Holds rec payload stage (.str id)) :
    ∃ run, drain ⟨0, 3, false⟩ { calmEnv with codec := pyJson floats other }
      (decodeTopic (pyJson floats other) (fun _ => "")
        (envelopeTopic (pyJson floats other) rec)) = .ok run ∧
        run.read = [recordOf rec ⟨0, 0⟩] := by
  have hread : readAll (decodeTopic (pyJson floats other) (fun _ => "")
      (envelopeTopic (pyJson floats other) rec)) calmEnv.polls 0 = .ok [recordOf rec ⟨0, 0⟩] :=
    readAll_envelope h.eventId_eq
  obtain ⟨lists, hlists⟩ : ∃ lists, routeRecords { calmEnv with codec := pyJson floats other } 3
      [recordOf rec ⟨0, 0⟩] = .ok lists :=
    exists_routeRecords fun r hr => by
      obtain rfl := List.mem_singleton.mp hr
      exact ⟨_, classify_quarantine (by norm_num) hstage h⟩
  have hrun : ∃ run, drain ⟨0, 3, false⟩ { calmEnv with codec := pyJson floats other }
      (decodeTopic (pyJson floats other) (fun _ => "")
        (envelopeTopic (pyJson floats other) rec)) = .ok run := by
    unfold readAll at hread
    unfold drain drainFrom
    dsimp only
    rw [hread]
    simp only [bind, Except.bind, List.isEmpty_cons, Bool.false_eq_true, if_false, hlists]
    exact ⟨_, rfl⟩
  obtain ⟨run, hrun⟩ := hrun
  have hreads := (drain_drained hrun rfl).reads
  exact ⟨run, hrun, Except.ok.inj (hreads.symm.trans hread)⟩

end envelope

/-- The general result at the sample envelope. -/
theorem republished_verbatim_sample :
    ∃ run, drain ⟨0, 3, false⟩ { calmEnv with codec := tripCodec }
        (decodeTopic tripCodec (fun _ => "") (envelopeTopic tripCodec sampleEnvelope)) = .ok run ∧
      ∃ p ∈ run.produced, p.key = sampleTrip.tripId ∧
        p.value.toByteArray = sampleTrip.value tripCodec := by
  obtain ⟨stage, hstage, hholds⟩ := quarantineOf_sample.holds
  obtain ⟨run, hrun, hread⟩ := exists_drain_envelope hstage hholds
  obtain ⟨hverbatim, hproduced⟩ := republished_verbatim (l := ⟨0, 0⟩) hrun rfl rfl
    quarantineOf_sample rfl
  have hmem : (⟨0, 0⟩ : Loc) ∈ run.read.map DlqRead.loc := by
    rw [hread]
    exact List.mem_singleton_self _
  obtain ⟨p, hp, hloc⟩ := hproduced hmem (by decide) rfl
  exact ⟨run, hrun, p, hp, hverbatim p hp hloc⟩

end TripPipeline.Replay
