import TripPipeline.Common.Dlq
import TripPipeline.Lib.Binary64
import TripPipeline.Streaming.Statements

/-!
# The replay drain

`drain` of `replay/dlq_tools.py` reads the DLQ topic (`readAll`), sorts the records it read into
three lists (`classify`), and handles the lists one after the other: re-inject into `trips.raw`,
write to Cassandra, park in a file.

* A `Topic` gives the messages of each partition. A poll delivers the next message of a partition,
  and which partition it is, is the environment's choice (`DrainEnv.polls`). The consumer belongs to
  a group of its own, whose only member it is: it is assigned every partition once, at offset 0.
* Retention and a purge delete messages from the front of a partition, and offset 0 is then out of
  range: the consumer begins at the low watermark (`LowWatermark`), as `auto.offset.reset` says.
  `readAllFrom` and `drainFrom` take it; `readAll` and `drain` are those of a topic that has lost
  nothing.
* A DLQ message is read as the object its JSON text stands for (`DlqValue`).
* A drain that raises before it handles a record has no effect (`Except`). One that raises later
  leaves the effects it had; they are in `DrainRun`, next to its result.

`Loc` is where a record came from. It is the `_partition` and `_offset` the reader adds.

Left out: the report file, the printed summary, and `inspect`, which changes nothing.
-/

namespace TripPipeline.Replay

open TripPipeline.Common TripPipeline.Lib
open TripPipeline.Streaming (Table Statement allTables buildStatements)

/-! ## The DLQ topic -/

/-- The messages ever published to each partition, oldest first: the offset of a message is its
place in the list. -/
abbrev Topic (α : Type) := ℕ → List α

/-- Where each partition begins: the offset of the oldest message that the topic still holds, or of
the next one when it holds none. -/
structure LowWatermark {α : Type} (topic : Topic α) where
  offset : ℕ → ℕ
  le_length : ∀ p, offset p ≤ (topic p).length

/-- Nothing has been deleted. -/
def LowWatermark.zero {α : Type} (topic : Topic α) : LowWatermark topic :=
  ⟨fun _ => 0, fun _ => Nat.zero_le _⟩

/-- A topic that has lost nothing begins at offset 0. -/
@[simp] theorem LowWatermark.zero_offset {α : Type} (topic : Topic α) (p : ℕ) :
    (LowWatermark.zero topic).offset p = 0 := rfl

/-- The partition and the offset of a message. -/
structure Loc where
  partition : ℕ
  offset : ℕ
  deriving DecidableEq, Repr

/-- The value of a message of the DLQ topic. -/
inductive DlqValue where
  /-- A null value. -/
  | null
  /-- Bytes that are no JSON text, as `decode("utf-8", "replace")` shows them. -/
  | unreadable (text : String)
  /-- The JSON text of `v`. -/
  | json (v : PyVal)

/-- A record as the drain holds it. -/
structure DlqRead where
  loc : Loc
  fields : Dict

/-- What a `c.poll(1.0)` gives. -/
inductive Poll where
  /-- The next message of a partition; nothing when the partition is read to its end. -/
  | message (partition : ℕ)
  /-- No message; `idle` when the silence has lasted longer than `idle_timeout`. -/
  | nothing (idle : Bool)
  | partitionEof
  | error (e : Exc)

/-- `rec = json.loads(msg.value().decode("utf-8"))` with its fallback, followed by the two
assignments to `rec`, which only an object supports. -/
def DlqValue.toRecord (loc : Loc) : DlqValue → Except Exc DlqRead
  | .null => .error ⟨"AttributeError", "'NoneType' object has no attribute 'decode'",
      [.attributeError]⟩
  | .unreadable text =>
      let r : Dict := [("failure_stage", .str "unreadable_dlq_record"),
        ("original_payload", .str text)]
      .ok ⟨loc, Dict.set "_offset" (.int loc.offset) (Dict.set "_partition" (.int loc.partition) r)⟩
  | .json (.dict r) =>
      .ok ⟨loc, Dict.set "_offset" (.int loc.offset) (Dict.set "_partition" (.int loc.partition) r)⟩
  | .json _ => .error ⟨"TypeError", "object does not support item assignment", [.typeError]⟩

/-- The loop of `read_all`. When the listed polls are used up the topic stays quiet, and the silence
ends the loop. -/
def readLoop (topic : Topic DlqValue) (limit : ℤ) :
    List Poll → (pos : ℕ → ℕ) → List DlqRead → Except Exc (List DlqRead)
  | [], _, records => .ok records
  | .nothing idle :: polls, pos, records =>
      if idle then .ok records else readLoop topic limit polls pos records
  | .partitionEof :: polls, pos, records => readLoop topic limit polls pos records
  | .error e :: _, _, _ => .error e
  | .message p :: polls, pos, records =>
      match (topic p)[pos p]? with
      | none => readLoop topic limit polls pos records
      | some value => do
          let r ← value.toRecord ⟨p, pos p⟩
          let records := records ++ [r]
          if limit ≠ 0 ∧ limit ≤ records.length then .ok records
          else readLoop topic limit polls (Function.update pos p (pos p + 1)) records

/-- Read the topic from the beginning until it goes quiet.
Source: `replay/dlq_tools.py` `read_all` -/
def readAllFrom (topic : Topic DlqValue) (low : LowWatermark topic) (polls : List Poll)
    (limit : ℤ) : Except Exc (List DlqRead) :=
  readLoop topic limit polls low.offset []

/-- `read_all` of a topic that has lost nothing. -/
abbrev readAll (topic : Topic DlqValue) (polls : List Poll) (limit : ℤ) :
    Except Exc (List DlqRead) :=
  readAllFrom topic (.zero topic) polls limit

/-! ## Arguments, environment, effects -/

/-- What `drain` reads of its arguments. -/
structure DrainArgs where
  limit : ℤ
  maxReplays : ℤ
  dryRun : Bool

/-- What becomes of a message handed to the client. -/
inductive Delivery where
  /-- The callback reports success. -/
  | acked
  /-- The callback reports an error. -/
  | failed
  /-- `flush(60)` times out before the callback. -/
  | silent
  deriving DecidableEq, Repr

/-- What a drain meets outside the repository's code. -/
structure DrainEnv where
  codec : JsonCodec
  /-- `int(text)`, `none` when it raises. -/
  intOfText : String → Option ℤ
  /-- `repr(value)`. -/
  repr : PyVal → String
  /-- `datetime.fromisoformat(text)`, `none` when it raises. -/
  fromIsoFormat : String → Option Datetime
  polls : List Poll
  /-- `p.produce(...)` of the record at a location. -/
  produce : Loc → Except Exc Unit
  delivery : Loc → Delivery
  /-- `cluster.connect(...)` and the `prepare` calls. -/
  connect : Except Exc Unit
  /-- `int(time.time() * 1000)`. -/
  nowMs : ℤ
  /-- `session.execute(prepared[key], params)` for the record at a location. -/
  execute : Loc → Table → Except Exc Unit
  /-- Making the park directory, opening and writing the file. -/
  openPark : Except Exc Unit

/-- A message handed to the client for `trips.raw`. -/
structure Produced where
  loc : Loc
  key : String
  value : String
  delivery : Delivery

/-! ## Routing -/

/-- `r.get(field, default)`. -/
def getOr (r : Dict) (field : String) (default : PyVal) : PyVal := (r.lookup field).getD default

/-- `int(value)`. -/
def pyInt (intOfText : String → Option ℤ) : PyVal → Except Exc ℤ
  | .int n => .ok n
  | .bool b => .ok (if b then 1 else 0)
  | .float x => .ok (trunc x)
  | .nonFinite .nan => .error ⟨"ValueError", "cannot convert float NaN to integer", [.valueError]⟩
  | .nonFinite _ => .error ⟨"OverflowError", "cannot convert float infinity to integer", []⟩
  | .str s =>
      match intOfText s with
      | some n => .ok n
      | none => .error ⟨"ValueError", "invalid literal for int()", [.valueError]⟩
  | _ => .error ⟨"TypeError", "int() argument must be a string or a number", [.typeError]⟩

/-- `value in stages`, which hashes the value. -/
def inStages (stages : List String) : PyVal → Except Exc Bool
  | .str s => .ok (stages.contains s)
  | .list _ => .error ⟨"TypeError", "unhashable type: 'list'", [.typeError]⟩
  | .dict _ => .error ⟨"TypeError", "unhashable type: 'dict'", [.typeError]⟩
  | _ => .ok false

/-- `REINJECT_STAGES`. -/
def reinjectStages : List String := [stageCassandraSink, stageProducer]

/-- `DIRECT_WRITE_STAGES`. -/
def directWriteStages : List String := [stageLate]

/-- The list a record goes to. -/
inductive Action where
  | reinject | direct
  /-- Park, with the `_park_reason`. -/
  | park (reason : String)
  deriving DecidableEq, Repr

/-- One turn of the routing loop. -/
def classify (env : DrainEnv) (maxReplays : ℤ) (r : DlqRead) : Except Exc Action := do
  let stage := getOr r.fields "failure_stage" (.str "?")
  let replays ← pyInt env.intOfText (getOr r.fields "replay_count" (.int 0))
  if maxReplays ≤ replays then .ok (.park ("replay_count >= " ++ toString maxReplays))
  else
    let reinject ← inStages reinjectStages stage
    if reinject then .ok .reinject
    else
      let direct ← inStages directWriteStages stage
      if direct then .ok .direct
      else .ok (.park ("stage " ++ env.repr stage ++ " is not automatically recoverable"))

/-- The three lists. -/
structure Lists where
  reinject : List DlqRead
  direct : List DlqRead
  park : List DlqRead

/-- A record joins its list; a parked one with its reason. -/
def Lists.add (l : Lists) (r : DlqRead) : Action → Lists
  | .reinject => { l with reinject := l.reinject ++ [r] }
  | .direct => { l with direct := l.direct ++ [r] }
  | .park reason =>
      { l with
        park := l.park ++ [{ r with fields := Dict.set "_park_reason" (.str reason) r.fields }] }

/-- The routing loop of `drain`. -/
def routeRecords (env : DrainEnv) (maxReplays : ℤ) (recs : List DlqRead) : Except Exc Lists :=
  recs.foldlM (fun l r => do .ok (l.add r (← classify env maxReplays r))) ⟨[], [], []⟩

/-! ## Re-inject -/

/-- `json.loads(value)`. -/
def jsonLoads (codec : JsonCodec) : PyVal → Except Exc PyVal
  | .str s =>
      match codec.loads s with
      | some v => .ok v
      | none => .error ⟨"JSONDecodeError", "Expecting value", [.valueError]⟩
  | _ => .error ⟨"TypeError", "the JSON object must be str, bytes or bytearray", [.typeError]⟩

/-- `payload.get(field)`, which only an object has. -/
def pyGet (payload : PyVal) (field : String) : Except Exc PyVal :=
  match payload with
  | .dict kvs => .ok (Dict.get kvs field)
  | _ => .error ⟨"AttributeError", "object has no attribute 'get'", [.attributeError]⟩

/-- The key of a message: the client takes texts only. -/
def messageKey : PyVal → Except Exc String
  | .str s => .ok s
  | _ => .error ⟨"TypeError", "key must be str or bytes", [.typeError]⟩

/-- `r["original_payload"].encode()`. -/
def encode : PyVal → Except Exc String
  | .str s => .ok s
  | _ => .error ⟨"AttributeError", "object has no attribute 'encode'", [.attributeError]⟩

/-- One turn of the re-inject loop. Only the inner payload is published. -/
def reinjectOne (env : DrainEnv) (r : DlqRead) : Except Exc Produced := do
  let original ← Dict.item r.fields "original_payload"
  let payload ← jsonLoads env.codec original
  let tripId ← pyGet payload "trip_id"
  let key := tripId.orElse ((Dict.get r.fields "event_id").orElse (.str "unknown"))
  let value ← encode original
  let key ← messageKey key
  let () ← env.produce r.loc
  .ok ⟨r.loc, key, value, env.delivery r.loc⟩

/-- The messages handed to the client: a record that raises is reported and skipped. -/
def reinjectAll (env : DrainEnv) (recs : List DlqRead) : List Produced :=
  recs.filterMap fun r => (reinjectOne env r).toOption

/-! ## Direct write -/

/-- `text.replace("Z", "+00:00")`. -/
def replaceZ (text : String) : String :=
  String.ofList (text.toList.flatMap fun c => if c = 'Z' then "+00:00".toList else [c])

/-- `payload["event_time"]`, which only an object has. -/
def pyItem (payload : PyVal) (field : String) : Except Exc (Dict × PyVal) :=
  match payload with
  | .dict kvs => do .ok (kvs, ← Dict.item kvs field)
  | _ => .error ⟨"TypeError", "object is not subscriptable", [.typeError]⟩

/-- `datetime.fromisoformat(value.replace("Z", "+00:00"))`. -/
def isoDatetime (fromIsoFormat : String → Option Datetime) : PyVal → Except Exc Datetime
  | .str s =>
      match fromIsoFormat (replaceZ s) with
      | some d => .ok d
      | none => .error ⟨"ValueError", "Invalid isoformat string", [.valueError]⟩
  | _ => .error ⟨"AttributeError", "object has no attribute 'replace'", [.attributeError]⟩

/-- The payload with its `event_time` as a `datetime`. -/
def directPayload (codec : JsonCodec) (fromIsoFormat : String → Option Datetime)
    (original : PyVal) : Except Exc Dict := do
  let payload ← jsonLoads codec original
  let (kvs, eventTime) ← pyItem payload "event_time"
  let et ← isoDatetime fromIsoFormat eventTime
  .ok (Dict.set "event_time" (.datetime et) kvs)

/-- The statements of a payload in the loop of `_direct_write`. -/
def directStatements (codec : JsonCodec) (fromIsoFormat : String → Option Datetime)
    (nowMs : ℤ) (original : PyVal) : Except Exc (List Statement) := do
  let payload ← directPayload codec fromIsoFormat original
  buildStatements payload allTables nowMs

/-- The statements a record has executed when its turn ends, and how the turn ends. -/
def executeAll (execute : Table → Except Exc Unit) :
    List Statement → List Statement × Except Exc Unit
  | [] => ([], .ok ())
  | st :: stmts =>
      match execute st.key with
      | .ok () =>
          let (done, result) := executeAll execute stmts
          (st :: done, result)
      | .error e => ([], .error e)

/-- A record of the direct-write loop, after its turn. -/
structure DirectTurn where
  loc : Loc
  executed : List Statement
  result : Except Exc Unit

/-- One turn of the loop of `_direct_write`. -/
def directWriteOne (env : DrainEnv) (r : DlqRead) : DirectTurn :=
  let built := Dict.item r.fields "original_payload" >>=
    directStatements env.codec env.fromIsoFormat env.nowMs
  match built with
  | .error e => ⟨r.loc, [], .error e⟩
  | .ok stmts =>
      let (done, result) := executeAll (env.execute r.loc) stmts
      ⟨r.loc, done, result⟩

/-- Write late events straight to the serving tables.
Source: `replay/dlq_tools.py` `_direct_write` -/
def directWrite (env : DrainEnv) (recs : List DlqRead) : Except Exc (List DirectTurn) := do
  if recs.isEmpty then .ok []
  else
    let () ← env.connect
    .ok (recs.map (directWriteOne env))

/-! ## The drain -/

/-- What `drain` returns. -/
structure DrainReport where
  recordsRead : ℕ
  reinjected : ℤ
  reinjectFailed : ℕ
  directWritten : ℕ
  directWriteFailed : ℕ
  parked : ℕ
  accountedFor : ℤ
  unaccounted : ℤ

/-- The dictionaries `drain` can return. -/
inductive DrainResult where
  | empty
  | dryRun (records wouldReinject wouldDirectWrite wouldPark : ℕ)
  | drained (report : DrainReport)

/-- What a drain has done. -/
structure DrainRun where
  read : List DlqRead
  lists : Lists
  produced : List Produced
  direct : List DirectTurn
  /-- The records written to the park file. -/
  parkFile : List DlqRead
  result : Except Exc DrainResult

/-- The counts of a drain that got to its end. -/
def drainReport (recs : List DlqRead) (lists : Lists) (produced : List Produced)
    (direct : List DirectTurn) : DrainReport :=
  let errors := produced.countP fun p => p.delivery = .failed
  let reinjected : ℤ := produced.length - errors
  let written := direct.countP fun t => t.result.isOk
  let accounted : ℤ := reinjected + written + lists.park.length
  { recordsRead := recs.length
    reinjected := reinjected
    reinjectFailed := lists.reinject.length - produced.length + errors
    directWritten := written
    directWriteFailed := direct.length - written
    parked := lists.park.length
    accountedFor := accounted
    unaccounted := recs.length - accounted }

/-- The three lists are handled in turn. -/
def handle (env : DrainEnv) (recs : List DlqRead) (lists : Lists) : DrainRun :=
  let produced := reinjectAll env lists.reinject
  match directWrite env lists.direct with
  | .error e => ⟨recs, lists, produced, [], [], .error e⟩
  | .ok direct =>
      match (if lists.park.isEmpty then .ok () else env.openPark) with
      | .error e => ⟨recs, lists, produced, direct, [], .error e⟩
      | .ok () => ⟨recs, lists, produced, direct, lists.park,
          .ok (.drained (drainReport recs lists produced direct))⟩

/-- Drain the DLQ.
Source: `replay/dlq_tools.py` `drain` -/
def drainFrom (topic : Topic DlqValue) (low : LowWatermark topic) (args : DrainArgs)
    (env : DrainEnv) : Except Exc DrainRun := do
  let recs ← readAllFrom topic low env.polls args.limit
  if recs.isEmpty then .ok ⟨[], ⟨[], [], []⟩, [], [], [], .ok .empty⟩
  else
    let lists ← routeRecords env args.maxReplays recs
    if args.dryRun then
      .ok ⟨recs, lists, [], [], [], .ok (.dryRun recs.length lists.reinject.length
        lists.direct.length lists.park.length)⟩
    else .ok (handle env recs lists)

/-- `drain` of a topic that has lost nothing. -/
abbrev drain (args : DrainArgs) (env : DrainEnv) (topic : Topic DlqValue) : Except Exc DrainRun :=
  drainFrom topic (.zero topic) args env

end TripPipeline.Replay
