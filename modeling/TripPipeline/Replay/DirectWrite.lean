import TripPipeline.Replay.Drain
import TripPipeline.Streaming.Source

/-!
# The direct write against the streaming path

`build_statements` has two callers. The streaming path hands it a row that Spark decoded: typed
columns, null where the payload has no value, and `event_time` as a naive UTC `datetime`. The direct
write hands it what `json.loads` gives, with `event_time` as `fromisoformat` reads it: any value, no
key where the payload has none, and the offset of the text.

`Documented` is what the comparison assumes of Spark: what a column is made of, and that
`to_timestamp` gives the instant of the text.

* `directStatements_ok_iff`, `buildStatements_allTables_iff`: when either path has statements.
* `same_iff_fits`: a column agrees iff the payload has a value of its type.
* `hour_instant_eq_iff`: the hours agree iff the offset is a whole number of hours.
* `direct_agrees_iff`: the two paths agree iff both refuse the payload, or it is `Uniform`.
-/

namespace TripPipeline.Replay

open TripPipeline.Common TripPipeline.Lib
open TripPipeline.Streaming
open Datetime

/-! ## Equal parameters -/

/-- The number a value compares as. -/
def number : PyVal → Option ℚ
  | .bool b => some (if b then 1 else 0)
  | .int n => some n
  | .float x => some x
  | _ => none

/-- `a == b` on parameters. Lists and dictionaries are compared as they stand: a row has none. -/
def Same : PyVal → PyVal → Prop
  | .datetime d, .datetime d' => d.utcoffset.isSome = d'.utcoffset.isSome ∧ d.instant = d'.instant
  | a, b => a = b ∨ ∃ x, number a = some x ∧ number b = some x

/-- The same table and equal parameters. -/
def SameStatement (s s' : Statement) : Prop := s.key = s'.key ∧ List.Forall₂ Same s.params s'.params

/-- The types of the schema. -/
inductive ColumnType where
  | string
  /-- `LongType` (64 bits), `IntegerType` (32 bits). -/
  | whole (bits : ℕ)
  | double
  deriving DecidableEq

/-- Source: `streaming/stream_job.py` `EVENT_SCHEMA` -/
def eventSchema : List (String × ColumnType) :=
  [("event_id", .string),
   ("trip_id", .string),
   ("event_time", .string),
   ("produced_at_ms", .whole 64),
   ("city_id", .string),
   ("driver_id", .string),
   ("rider_id", .string),
   ("pickup_zone_id", .whole 32),
   ("dropoff_zone_id", .whole 32),
   ("vehicle_class", .string),
   ("payment_type", .string),
   ("distance_km", .double),
   ("duration_sec", .whole 32),
   ("fare_amount", .double),
   ("surge_multiplier", .double),
   ("status", .string),
   ("producer_id", .string),
   ("schema_version", .whole 32)]

/-- The columns of `_parsed.*`. -/
def columnsOf (e : Event String) : Dict :=
  [("event_id", .ofOption .str e.eventId),
   ("trip_id", .ofOption .str e.tripId),
   ("event_time", .ofOption .str e.eventTime),
   ("produced_at_ms", .ofOption .int e.producedAtMs),
   ("city_id", .ofOption .str e.cityId),
   ("driver_id", .ofOption .str e.driverId),
   ("rider_id", .ofOption .str e.riderId),
   ("pickup_zone_id", .ofOption .int e.pickupZoneId),
   ("dropoff_zone_id", .ofOption .int e.dropoffZoneId),
   ("vehicle_class", .ofOption .str e.vehicleClass),
   ("payment_type", .ofOption .str e.paymentType),
   ("distance_km", .ofOption .float e.distanceKm),
   ("duration_sec", .ofOption .int e.durationSec),
   ("fare_amount", .ofOption .float e.fareAmount),
   ("surge_multiplier", .ofOption .float e.surgeMultiplier),
   ("status", .ofOption .str e.status),
   ("producer_id", .ofOption .str e.producerId),
   ("schema_version", .ofOption .int e.schemaVersion)]

/-- The range of a signed integer type. -/
def inRange (bits : ℕ) (n : ℤ) : Prop := -2 ^ (bits - 1) ≤ n ∧ n < 2 ^ (bits - 1)

instance (bits : ℕ) (n : ℤ) : Decidable (inRange bits n) :=
  inferInstanceAs (Decidable (_ ∧ _))

/-- The column `w` that `from_json` makes of the JSON value `v`: null for null, a value of the type
as it is, and null for a number or a truth value that is not of the type. -/
inductive FromJson : ColumnType → PyVal → PyVal → Prop
  | null (ty) : FromJson ty .none .none
  | string (s) : FromJson .string (.str s) (.str s)
  /-- Any other value is shown as some text, or not at all. -/
  | shown (v) (c : Option String) : v ≠ .none → (∀ s, v ≠ .str s) →
      FromJson .string v (.ofOption .str c)
  | whole (bits n) : FromJson (.whole bits) (.int n) (if inRange bits n then .int n else .none)
  | float (x) : FromJson .double (.float x) (.float x)
  | int (n : ℤ) : FromJson .double (.int n) (.float (fl n))
  | notWhole (bits x) : FromJson (.whole bits) (.float x) .none
  | truth (ty b) : ty ≠ .string → FromJson ty (.bool b) .none
  /-- A text, a list or an object in a column of numbers. -/
  | other (ty v w) : ty ≠ .string → v ≠ .none → number v = none →
      (w = .none ∨ (number w).isSome) → FromJson ty v w

/-- What the comparison assumes of Spark, of `json.loads` and of `fromisoformat`. -/
structure Documented (spark : SparkSql) (codec : JsonCodec)
    (fromIsoFormat : String → Option Datetime) : Prop where
  /-- A column holds what the payload has for it. -/
  columns : ∀ text kvs e, codec.loads text = some (.dict kvs) → spark.fromJson text = some e →
    ∀ c ∈ eventSchema, FromJson c.2 (Dict.get kvs c.1) (Dict.get (columnsOf e) c.1)
  /-- `to_timestamp` gives the instant of the text; the session time zone is UTC. -/
  clock : ∀ text us d, spark.toTimestamp text = some us → fromIsoFormat (replaceZ text) = some d →
    us = d.instant

/-! ## Payloads that both paths treat alike -/

/-- The value is one of the column's type, or null. -/
def Fits : ColumnType → PyVal → Prop
  | .string, v => v = .none ∨ ∃ s, v = .str s
  | .whole bits, v => v = .none ∨ ∃ n, v = .int n ∧ inRange bits n
  | .double, v => v = .none ∨ (∃ x, v = .float x) ∨ ∃ n : ℤ, v = .int n ∧ fl n = n

/-- The text is the JSON of an object whose `event_time` is a text that `fromisoformat` reads. -/
structure Readable (codec : JsonCodec) (fromIsoFormat : String → Option Datetime) (text : String)
    (kvs : Dict) (d : Datetime) : Prop where
  loads : codec.loads text = some (.dict kvs)
  time : ∃ t, kvs.lookup "event_time" = some (.str t) ∧ fromIsoFormat (replaceZ t) = some d

/-- The object with its `event_time` replaced. -/
def withTime (kvs : Dict) (d : Datetime) : Dict := Dict.set "event_time" (.datetime d) kvs

/-- Every value has the type of its column, the offset is a whole number of hours, and the date on
the wall clock is the UTC date. -/
structure Uniform (kvs : Dict) (d : Datetime) : Prop where
  fits : ∀ c ∈ eventSchema, Fits c.2 (Dict.get kvs c.1)
  hours : hourUs ∣ d.utcoffset.getD 0
  date : d.date = d.instant / dayUs

/-! ## One column -/

/-- Only `None` is bound like `None`. -/
theorem same_none_iff {v : PyVal} : Same .none v ↔ v = .none := by
  simp [Same, number, eq_comm]

/-- Only the text itself is bound like a text. -/
theorem same_str_iff {s : String} {v : PyVal} : Same (.str s) v ↔ v = .str s := by
  simp [Same, number, eq_comm]

/-- What is bound like a number is that number. -/
theorem same_number_iff {w v : PyVal} {x : ℚ} (hw : number w = some x) :
    Same w v ↔ number v = some x := by
  have hdef : Same w v ↔ w = v ∨ ∃ y, number w = some y ∧ number v = some y := by
    cases w with
    | datetime d => cases hw
    | _ => exact Iff.rfl
  rw [hdef]
  constructor
  · rintro (rfl | ⟨y, hy, hv⟩)
    · exact hw
    · rw [hv, ← hy, hw]
  · intro hv
    exact Or.inr ⟨x, hw, hv⟩

/-- **A column agrees with the payload iff the payload has a value of its type.** -/
theorem same_iff_fits {ty : ColumnType} {v w : PyVal} (h : FromJson ty v w) :
    Same w v ↔ Fits ty v := by
  rcases h with _ | s | ⟨_, c, hnone, hstr⟩ | ⟨bits, n⟩ | x | n | _ | ⟨_, b, hty⟩ |
    ⟨_, _, _, hty, hnone, hnum, hw⟩
  · refine iff_of_true (same_none_iff.mpr rfl) ?_
    cases ty <;> exact Or.inl rfl
  · exact iff_of_true (same_str_iff.mpr rfl) (Or.inr ⟨s, rfl⟩)
  · refine iff_of_false ?_ ?_
    · rcases c with _ | s
      · exact fun h => hnone (same_none_iff.mp h)
      · exact fun h => hstr s (same_str_iff.mp h)
    · rintro (h | ⟨s, h⟩)
      · exact hnone h
      · exact hstr s h
  · by_cases hn : inRange bits n
    · rw [if_pos hn]
      exact iff_of_true ((same_number_iff rfl).mpr rfl) (Or.inr ⟨n, rfl, hn⟩)
    · rw [if_neg hn, same_none_iff]
      simp [Fits, hn]
  · exact iff_of_true ((same_number_iff rfl).mpr rfl) (Or.inr (Or.inl ⟨x, rfl⟩))
  · rw [same_number_iff rfl]
    simp [Fits, number, eq_comm]
  · rw [same_none_iff]
    simp [Fits]
  · rw [same_none_iff]
    cases ty <;> simp [Fits] at hty ⊢
  · refine iff_of_false ?_ ?_
    · rcases hw with rfl | hw
      · exact fun h => hnone (same_none_iff.mp h)
      · obtain ⟨x, hx⟩ := Option.isSome_iff_exists.mp hw
        rw [same_number_iff hx, hnum]
        exact Option.some_ne_none x ∘ Eq.symm
    · intro hfits
      have hnumber : ∀ y, number v ≠ some y := fun y hy => by simp [hnum] at hy
      rcases ty with _ | bits | _
      · exact hty rfl
      · rcases hfits with h | ⟨n, rfl, -⟩
        · exact hnone h
        · exact hnumber _ rfl
      · rcases hfits with h | ⟨x, rfl⟩ | ⟨n, rfl, -⟩
        · exact hnone h
        · exact hnumber _ rfl
        · exact hnumber _ rfl

/-- A column with a value of its type is null, or empty, when the value is. -/
theorem FromJson.of_fits {ty : ColumnType} {v w : PyVal} (h : FromJson ty v w) (hfits : Fits ty v) :
    w.isMissing = v.isMissing ∧ w.isNone = v.isNone := by
  rcases h with _ | s | ⟨_, c, hnone, hstr⟩ | ⟨bits, n⟩ | x | n | _ | ⟨_, b, hty⟩ |
    ⟨_, _, _, hty, hnone, hnum, hw⟩
  · exact ⟨rfl, rfl⟩
  · exact ⟨rfl, rfl⟩
  · rcases hfits with h | ⟨s, h⟩
    · exact absurd h hnone
    · exact absurd h (hstr s)
  · rcases hfits with h | ⟨n', h, hrange⟩
    · cases h
    · obtain rfl := PyVal.int.inj h
      rw [if_pos hrange]
      exact ⟨rfl, rfl⟩
  · exact ⟨rfl, rfl⟩
  · exact ⟨rfl, rfl⟩
  · rcases hfits with h | ⟨n, h, -⟩ <;> cases h
  · rcases ty with _ | bits | _
    · exact absurd rfl hty
    · rcases hfits with h | ⟨n, h, -⟩ <;> cases h
    · rcases hfits with h | ⟨x, h⟩ | ⟨n, h, -⟩ <;> cases h
  · rcases ty with _ | bits | _
    · exact absurd rfl hty
    · rcases hfits with h | ⟨n, rfl, -⟩
      · exact absurd h hnone
      · cases hnum
    · rcases hfits with h | ⟨x, rfl⟩ | ⟨n, rfl, -⟩
      · exact absurd h hnone
      · cases hnum
      · cases hnum

/-- A text stays as it is. -/
theorem FromJson.of_str {v w : PyVal} (h : FromJson .string v w) {s : String} (hv : v = .str s) :
    w = .str s := by
  rcases h with _ | s' | ⟨_, c, hnone, hstr⟩ | _ | _ | _ | _ | ⟨_, b, hty⟩ | ⟨_, _, _, hty, _⟩
  · cases hv
  · exact hv
  · exact absurd hv (hstr s)
  · cases hv
  · exact absurd rfl hty

/-! ## Dates and hours -/

/-- **The hours agree iff the offset is a whole number of hours.** -/
theorem hour_instant_eq_iff (d : Datetime) :
    d.orUtc.hour.instant = d.instant - d.instant % hourUs ↔ hourUs ∣ d.utcoffset.getD 0 := by
  have hoff : d.orUtc.hour.instant = d.wall - d.wall % hourUs - d.utcoffset.getD 0 := by
    unfold hour orUtc instant
    cases h : d.utcoffset <;> simp [h]
  rw [hoff, Int.dvd_iff_emod_eq_zero]
  unfold instant hourUs
  omega

/-- The offset of India shifts the hours. -/
example : ¬hourUs ∣ (19800 * 1000000 : ℤ) := by decide

/-! ## The two rows -/

/-- A text parses when the codec reads it. -/
theorem jsonLoads_ok_iff {codec : JsonCodec} {text : String} {v : PyVal} :
    jsonLoads codec (.str text) = .ok v ↔ codec.loads text = some v := by
  rw [jsonLoads]
  cases codec.loads text <;> simp

/-- A field is read from a dict that has it. -/
theorem pyItem_ok_iff {payload v : PyVal} {field : String} {kvs : Dict} :
    pyItem payload field = .ok (kvs, v) ↔ payload = .dict kvs ∧ kvs.lookup field = some v := by
  cases payload with
  | dict kvs' =>
      rw [pyItem, bind_eq_ok_iff]
      simp only [item_ok_iff, Except.ok.injEq, Prod.mk.injEq, PyVal.dict.injEq]
      constructor
      · rintro ⟨w, hw, rfl, rfl⟩
        exact ⟨rfl, hw⟩
      · rintro ⟨rfl, hv⟩
        exact ⟨v, hv, rfl, rfl⟩
  | _ => simp [pyItem]

/-- A time is read from a text in ISO format. -/
theorem isoDatetime_ok_iff {fromIsoFormat : String → Option Datetime} {v : PyVal} {d : Datetime} :
    isoDatetime fromIsoFormat v = .ok d ↔
      ∃ t, v = .str t ∧ fromIsoFormat (replaceZ t) = some d := by
  cases v with
  | str t =>
      rw [isoDatetime]
      cases h : fromIsoFormat (replaceZ t) <;> simp [h]
  | _ => simp [isoDatetime]

section paths

variable {spark : SparkSql} {codec : JsonCodec} {fromIsoFormat : String → Option Datetime}
  {text : String} {m : KafkaMessage} {e : Event String} {us : ℤ} {kvs : Dict} {d : Datetime}

/-- A payload is taken when it parses and has a time in ISO format. -/
theorem directPayload_ok_iff {row : Dict} :
    directPayload codec fromIsoFormat (.str text) = .ok row ↔
      ∃ kvs d, Readable codec fromIsoFormat text kvs d ∧ row = withTime kvs d := by
  unfold directPayload
  simp only [bind_eq_ok_iff, jsonLoads_ok_iff]
  constructor
  · rintro ⟨payload, hloads, ⟨kvs, v⟩, hitem, d, hd, hrow⟩
    obtain ⟨rfl, hv⟩ := pyItem_ok_iff.mp hitem
    obtain ⟨t, rfl, hiso⟩ := isoDatetime_ok_iff.mp hd
    exact ⟨kvs, d, ⟨hloads, t, hv, hiso⟩, (Except.ok.inj hrow).symm⟩
  · rintro ⟨kvs, d, ⟨hloads, t, hv, hiso⟩, rfl⟩
    exact ⟨_, hloads, (kvs, .str t), pyItem_ok_iff.mpr ⟨rfl, hv⟩, d,
      isoDatetime_ok_iff.mpr ⟨t, rfl, hiso⟩, rfl⟩

/-- **When the direct write has statements.** -/
theorem directStatements_ok_iff {now : ℤ} {out : List Statement} :
    directStatements codec fromIsoFormat now (.str text) = .ok out ↔
      ∃ kvs d, Readable codec fromIsoFormat text kvs d ∧
        buildStatements (withTime kvs d) allTables now = .ok out := by
  unfold directStatements
  rw [bind_eq_ok_iff]
  constructor
  · rintro ⟨row, hrow, hout⟩
    obtain ⟨kvs, d, hread, rfl⟩ := directPayload_ok_iff.mp hrow
    exact ⟨kvs, d, hread, hout⟩
  · rintro ⟨kvs, d, hread, hout⟩
    exact ⟨_, directPayload_ok_iff.mpr ⟨kvs, d, hread, rfl⟩, hout⟩

/-- Only the time is replaced. -/
theorem lookup_withTime (k : String) : (withTime kvs d).lookup k =
    if k = "event_time" then some (.datetime d) else kvs.lookup k :=
  Dict.lookup_set _ _ _ _

/-- Every field but the time is read as before. -/
theorem get_withTime {k : String} (hk : k ≠ "event_time") :
    Dict.get (withTime kvs d) k = Dict.get kvs k := by
  rw [Dict.get, lookup_withTime, if_neg hk, Dict.get]

/-- A field that is there is read. -/
theorem get_of_lookup {row : Dict} {k : String} {v : PyVal} (h : row.lookup k = some v) :
    Dict.get row k = v := by
  rw [Dict.get, h]
  rfl

/-- The row of an accepted message. -/
theorem source_event (hm : m.value = some text) (hjson : spark.fromJson text = some e)
    (htime : e.eventTime.bind spark.toTimestamp = some us) :
    (source spark m).event = { e with eventTime := some us } := by
  simp only [source, hm, Option.bind_some, hjson, Option.getD_some, htime]

/-- The row has the columns of the parsed event, but for the time. -/
theorem lookup_asDict {r : StreamRow} (hr : r.event = { e with eventTime := some us }) :
    ∀ c ∈ eventSchema, c.1 ≠ "event_time" →
      r.asDict.lookup c.1 = some (Dict.get (columnsOf e) c.1) := by
  intro c hc hne
  unfold StreamRow.asDict
  rw [hr]
  simp only [eventSchema, List.mem_cons, List.not_mem_nil, or_false] at hc
  rcases hc with rfl | rfl | rfl | rfl | rfl | rfl | rfl | rfl | rfl | rfl | rfl | rfl | rfl | rfl |
    rfl | rfl | rfl | rfl <;> first | rfl | exact absurd rfl hne

/-- The row has the time that was parsed. -/
theorem lookup_asDict_time {r : StreamRow} (hr : r.event = { e with eventTime := some us }) :
    r.asDict.lookup "event_time" = some (.datetime (StreamRow.naiveUtc us)) := by
  unfold StreamRow.asDict
  rw [hr]
  rfl

/-- A text column of the payload that holds a UUID gives the same UUID in the row. -/
theorem isUuid_asDict (hdoc : Documented spark codec fromIsoFormat)
    (hread : Readable codec fromIsoFormat text kvs d) (hjson : spark.fromJson text = some e)
    {r : StreamRow} (hr : r.event = { e with eventTime := some us }) {k : String}
    (hk : (k, ColumnType.string) ∈ eventSchema) (hne : k ≠ "event_time") {s : String}
    (hs : (withTime kvs d).lookup k = some (.str s)) : r.asDict.lookup k = some (.str s) := by
  rw [lookup_asDict hr _ hk hne]
  rw [lookup_withTime, if_neg hne] at hs
  exact congrArg some ((hdoc.columns _ _ _ hread.loads hjson _ hk).of_str (get_of_lookup hs))

/-- **A payload whose values fit their columns is accepted by the streaming path when the direct
write accepts it.** -/
theorem buildable_asDict (hdoc : Documented spark codec fromIsoFormat)
    (hread : Readable codec fromIsoFormat text kvs d) (hjson : spark.fromJson text = some e)
    {r : StreamRow} (hr : r.event = { e with eventTime := some us })
    (hbuild : Buildable (withTime kvs d)) (hfits : ∀ c ∈ eventSchema, Fits c.2 (Dict.get kvs c.1)) :
    Buildable r.asDict := by
  have hcolumn : ∀ c ∈ eventSchema, c.1 ≠ "event_time" →
      (Dict.get r.asDict c.1).isMissing = (Dict.get (withTime kvs d) c.1).isMissing ∧
        (Dict.get r.asDict c.1).isNone = (Dict.get (withTime kvs d) c.1).isNone := by
    intro c hc hne
    rw [get_of_lookup (lookup_asDict hr c hc hne), get_withTime hne]
    exact (hdoc.columns _ _ _ hread.loads hjson c hc).of_fits (hfits c hc)
  refine ⟨⟨?_, ?_, ?_⟩, ?_, ?_, ⟨_, lookup_asDict_time hr⟩, ?_⟩
  · intro field hfield
    by_cases hne : field = "event_time"
    · rw [hne, get_of_lookup (lookup_asDict_time hr)]
      rfl
    · obtain ⟨c, hc, rfl⟩ : ∃ c ∈ eventSchema, c.1 = field := by
        revert field
        decide
      rw [(hcolumn c hc hne).1]
      exact hbuild.valid.required _ hfield
  · rw [(hcolumn ("fare_amount", .double) (by decide) (by decide)).2]
    exact hbuild.valid.fare
  · rw [(hcolumn ("produced_at_ms", .whole 64) (by decide) (by decide)).2]
    exact hbuild.valid.produced
  · obtain ⟨s, n, hs, hn⟩ := hbuild.trip
    exact ⟨s, n, isUuid_asDict hdoc hread hjson hr (by decide) (by decide) hs, hn⟩
  · obtain ⟨s, n, hs, hn⟩ := hbuild.event
    exact ⟨s, n, isUuid_asDict hdoc hread hjson hr (by decide) (by decide) hs, hn⟩
  · intro field hfield
    obtain ⟨c, hc, rfl, hne⟩ : ∃ c ∈ eventSchema, c.1 = field ∧ c.1 ≠ "event_time" := by
      revert field
      decide
    exact ⟨_, lookup_asDict hr c hc hne⟩

/-! ## Parameter by parameter -/

/-- The two paths agree on a parameter expression. -/
def Alike (kvs : Dict) (d : Datetime) : Param → Prop
  | .eventDate => d.date = d.instant / dayUs
  | .eventHour => hourUs ∣ d.utcoffset.getD 0
  | .row field => ∀ ty, (field, ty) ∈ eventSchema → Fits ty (Dict.get kvs field)
  | _ => True

/-- A field is one column, with one type. -/
theorem exists_column {field : String} (h : field ∈ rowFields) :
    ∃ ty, (field, ty) ∈ eventSchema ∧ field ≠ "event_time" ∧
      ∀ ty', (field, ty') ∈ eventSchema → ty' = ty := by
  simp only [rowFields, List.mem_cons, List.not_mem_nil, or_false] at h
  rcases h with rfl | rfl | rfl | rfl | rfl | rfl | rfl | rfl | rfl | rfl | rfl | rfl | rfl | rfl |
    rfl <;> simp [eventSchema]

/-- **The paths agree on all parameters iff the payload is uniform.** -/
theorem forall_alike_iff (hread : Readable codec fromIsoFormat text kvs d)
    (hbuild : Buildable (withTime kvs d)) :
    (∀ t ∈ allTables, ∀ p ∈ params t, Alike kvs d p) ↔ Uniform kvs d := by
  constructor
  · intro h
    refine ⟨?_, ?_, ?_⟩
    · intro c hc
      by_cases hfield : c.1 ∈ rowFields
      · obtain ⟨t, ht, hp⟩ := (mem_rowFields_iff c.1).mp hfield
        exact h t ht _ hp c.2 hc
      · -- the remaining columns hold texts in every buildable payload
        have hother : ∀ c ∈ eventSchema, c.1 ∉ rowFields →
            c = ("event_id", .string) ∨ c = ("trip_id", .string) ∨ c = ("event_time", .string) := by
          decide
        obtain ⟨s, -, hs, -⟩ := hbuild.event
        obtain ⟨s', -, hs', -⟩ := hbuild.trip
        obtain ⟨t, ht, -⟩ := hread.time
        rw [lookup_withTime, if_neg (by decide)] at hs hs'
        rcases hother c hc hfield with rfl | rfl | rfl
        · exact Or.inr ⟨s, get_of_lookup hs⟩
        · exact Or.inr ⟨s', get_of_lookup hs'⟩
        · exact Or.inr ⟨t, get_of_lookup ht⟩
    · exact h .tripsByCityHour (by decide) .eventHour (by decide)
    · exact h .tripsByDriverDay (by decide) .eventDate (by decide)
  · intro h t _ p _
    cases p with
    | eventDate => exact h.date
    | eventHour => exact h.hours
    | row field => exact fun ty hty => h.fits _ hty
    | _ => trivial

/-- The values a parameter expression has on the two paths are the same iff they are alike. -/
theorem same_param_iff (hdoc : Documented spark codec fromIsoFormat)
    (hread : Readable codec fromIsoFormat text kvs d) (hjson : spark.fromJson text = some e)
    {r : StreamRow} (hr : r.event = { e with eventTime := some us }) (hclock : us = d.instant)
    {trip event : ℕ} {now : ℤ} {t : Table} {p : Param} (hp : p ∈ params t) {x y : PyVal}
    (hx : Param.eval ⟨trip, event, (StreamRow.naiveUtc us).orUtc,
      (StreamRow.naiveUtc us).orUtc.date, (StreamRow.naiveUtc us).orUtc.hour, now⟩ r.asDict p =
        .ok x)
    (hy : Param.eval ⟨trip, event, d.orUtc, d.orUtc.date, d.orUtc.hour, now⟩ (withTime kvs d) p =
      .ok y) : Same x y ↔ Alike kvs d p := by
  have haware : d.orUtc.utcoffset.isSome = true := by
    unfold orUtc
    cases h : d.utcoffset <;> simp [h]
  cases p with
  | row field =>
      have hfield := (mem_rowFields_iff field).mpr ⟨t, by cases t <;> decide, hp⟩
      obtain ⟨ty, hty, hne, hunique⟩ := exists_column hfield
      have hx' := (item_ok_iff.mp hx).symm.trans (lookup_asDict hr _ hty hne)
      have hy' := item_ok_iff.mp hy
      rw [lookup_withTime, if_neg hne] at hy'
      rw [Option.some.inj hx', ← get_of_lookup hy',
        same_iff_fits (hdoc.columns _ _ _ hread.loads hjson _ hty)]
      constructor
      · intro hfits ty' hty'
        rw [hunique ty' hty']
        exact hfits
      · intro halike
        exact halike ty hty
  | eventDate =>
      rw [← Except.ok.inj hx, ← Except.ok.inj hy, hclock]
      show Same (.date (d.instant / dayUs)) (.date d.orUtc.date) ↔ d.date = d.instant / dayUs
      unfold date
      rw [orUtc_wall]
      simp [Same, number, eq_comm]
  | eventHour =>
      rw [← Except.ok.inj hx, ← Except.ok.inj hy, hclock]
      show (true = d.orUtc.utcoffset.isSome ∧
        d.instant - d.instant % hourUs - 0 = d.orUtc.hour.instant) ↔ _
      rw [haware, sub_zero, eq_comm (a := d.instant - d.instant % hourUs), hour_instant_eq_iff]
      exact and_iff_right rfl
  | et =>
      rw [← Except.ok.inj hx, ← Except.ok.inj hy, hclock]
      refine iff_of_true ?_ trivial
      show true = d.orUtc.utcoffset.isSome ∧ d.instant - 0 = d.orUtc.instant
      rw [haware, sub_zero, instant_orUtc]
      exact ⟨rfl, rfl⟩
  | _ =>
      rw [← Except.ok.inj hx, ← Except.ok.inj hy]
      exact iff_of_true (Or.inl rfl) trivial

/-- Two lists of statements built from one payload are the same iff it is uniform. -/
theorem sameStatements_iff (hdoc : Documented spark codec fromIsoFormat)
    (hread : Readable codec fromIsoFormat text kvs d) (hjson : spark.fromJson text = some e)
    {r : StreamRow} (hr : r.event = { e with eventTime := some us }) (hclock : us = d.instant)
    {now : ℤ} {out out' : List Statement} (hout : buildStatements r.asDict allTables now = .ok out)
    (hout' : buildStatements (withTime kvs d) allTables now = .ok out') :
    List.Forall₂ SameStatement out out' ↔ Uniform kvs d := by
  have hbuild := (buildStatements_allTables_iff _ _).mp ⟨out', hout'⟩
  obtain ⟨-, b, hb, hall⟩ := (buildStatements_ok_iff _ _ _ _).mp hout
  obtain ⟨-, b', hb', hall'⟩ := (buildStatements_ok_iff _ _ _ _).mp hout'
  obtain ⟨trip, event, et, htrip, hevent, het, rfl⟩ := (bindings_ok_iff _ _ _).mp hb
  obtain ⟨trip', event', et', htrip', hevent', het', rfl⟩ := (bindings_ok_iff _ _ _).mp hb'
  have hfilter : allTables.filter (· ∈ allTables) = allTables := by decide
  rw [hfilter] at hall hall'
  -- the two times
  obtain rfl : StreamRow.naiveUtc us = et := by
    obtain ⟨v, hv, hd⟩ := bind_eq_ok_iff.mp het
    have := (item_ok_iff.mp hv).symm.trans (lookup_asDict_time hr)
    rw [asDatetime_ok_iff.mp hd] at this
    exact (PyVal.datetime.inj (Option.some.inj this)).symm
  obtain rfl : d = et' := by
    obtain ⟨v, hv, hd⟩ := bind_eq_ok_iff.mp het'
    have := (item_ok_iff.mp hv).symm.trans (lookup_withTime "event_time")
    rw [asDatetime_ok_iff.mp hd, if_pos rfl] at this
    exact (PyVal.datetime.inj (Option.some.inj this)).symm
  -- the two pairs of UUIDs
  have huuid : ∀ k n n', (k, ColumnType.string) ∈ eventSchema → k ≠ "event_time" →
      (Dict.item r.asDict k >>= uuidUUID) = .ok n →
      (Dict.item (withTime kvs d) k >>= uuidUUID) = .ok n' → n = n' := by
    intro k n n' hk hne hn hn'
    obtain ⟨v', hv', hu'⟩ := bind_eq_ok_iff.mp hn'
    obtain ⟨s, rfl, -⟩ := uuidUUID_ok_iff.mp hu'
    have hlookup := isUuid_asDict hdoc hread hjson hr hk hne (item_ok_iff.mp hv')
    obtain ⟨v, hv, hu⟩ := bind_eq_ok_iff.mp hn
    rw [item_ok_iff.mpr hlookup, Except.ok.injEq] at hv
    rw [← hv, hu', Except.ok.injEq] at hu
    exact hu.symm
  obtain rfl := huuid "trip_id" _ _ (by decide) (by decide) htrip htrip'
  obtain rfl := huuid "event_id" _ _ (by decide) (by decide) hevent hevent'
  rw [← forall_alike_iff hread hbuild]
  apply forall₂_iff_of_common hall hall'
  intro t _ st st' hst hst'
  obtain ⟨hkey, hps⟩ := (statement_ok_iff _ _ _ _).mp hst
  obtain ⟨hkey', hps'⟩ := (statement_ok_iff _ _ _ _).mp hst'
  rw [SameStatement, hkey, hkey', and_iff_right rfl]
  apply forall₂_iff_of_common (mapM_eq_ok_iff.mp hps) (mapM_eq_ok_iff.mp hps')
  intro p hp x y hx hy
  exact same_param_iff hdoc hread hjson hr hclock hp hx hy

/-! ## The two paths -/

/-- The two paths read the same instant. -/
theorem instant_of_readable (hdoc : Documented spark codec fromIsoFormat)
    (hjson : spark.fromJson text = some e) (htime : e.eventTime.bind spark.toTimestamp = some us)
    (hread : Readable codec fromIsoFormat text kvs d) : us = d.instant := by
  obtain ⟨t, ht, hiso⟩ := hread.time
  have hcolumn : PyVal.ofOption PyVal.str e.eventTime = .str t :=
    (hdoc.columns _ _ _ hread.loads hjson ("event_time", .string) (by decide)).of_str
      (get_of_lookup ht)
  rcases het : e.eventTime with _ | t'
  · rw [het] at hcolumn
    cases hcolumn
  · rw [het] at hcolumn htime
    rw [PyVal.str.inj hcolumn] at htime
    exact hdoc.clock t us d htime hiso

end paths

/-! ## Two payloads -/

/-- The fields of a trip event that are not optional. -/
def sampleFields : String :=
  "\"event_id\":\"00000000-0000-0000-0000-000000000001\"," ++
    "\"trip_id\":\"00000000-0000-0000-0000-000000000002\"," ++
    "\"event_time\":\"1970-01-01T00:00:00Z\",\"produced_at_ms\":0,\"city_id\":\"NYC\"," ++
    "\"driver_id\":\"d-1\",\"fare_amount\":12.0"

/-- A trip event without its optional fields. -/
def sampleText : String := "\x7b" ++ sampleFields ++ "\x7d"

/-- What `json.loads` makes of it. -/
def sampleObject : Dict :=
  [("event_id", .str "00000000-0000-0000-0000-000000000001"),
   ("trip_id", .str "00000000-0000-0000-0000-000000000002"),
   ("event_time", .str "1970-01-01T00:00:00Z"),
   ("produced_at_ms", .int 0),
   ("city_id", .str "NYC"),
   ("driver_id", .str "d-1"),
   ("fare_amount", .float 12)]

/-- What `from_json` makes of it. -/
def sampleEvent : Event String :=
  { Event.nulls String with
    eventId := some "00000000-0000-0000-0000-000000000001"
    tripId := some "00000000-0000-0000-0000-000000000002"
    eventTime := some "1970-01-01T00:00:00Z"
    producedAtMs := some 0
    cityId := some "NYC"
    driverId := some "d-1"
    fareAmount := some 12 }

/-- A trip event with all its fields, most of them null. -/
def fullText : String :=
  "\x7b" ++ sampleFields ++ ",\"rider_id\":\"r-1\",\"pickup_zone_id\":4," ++
    "\"dropoff_zone_id\":null,\"vehicle_class\":null,\"payment_type\":null," ++
    "\"distance_km\":null,\"duration_sec\":null,\"surge_multiplier\":null," ++
    "\"status\":null,\"producer_id\":null,\"schema_version\":null" ++ "\x7d"

/-- What `json.loads` makes of it. -/
def fullObject : Dict :=
  sampleObject ++
    [("rider_id", .str "r-1"), ("pickup_zone_id", .int 4), ("dropoff_zone_id", .none),
     ("vehicle_class", .none), ("payment_type", .none), ("distance_km", .none),
     ("duration_sec", .none), ("surge_multiplier", .none), ("status", .none),
     ("producer_id", .none), ("schema_version", .none)]

/-- What `from_json` makes of it. -/
def fullEvent : Event String := { sampleEvent with riderId := some "r-1", pickupZoneId := some 4 }

/-- `from_json` and `to_timestamp` on one event. -/
def sampleSpark (text : String) (e : Event String) : SparkSql where
  fromJson t := if t = text then some e else none
  toTimestamp t := if t = "1970-01-01T00:00:00Z" then some 0 else none

/-- `json.loads` on one event. -/
def sampleCodec (text : String) (kvs : Dict) : JsonCodec where
  loads t := if t = text then some (.dict kvs) else none
  dumps _ := ""

/-- `fromisoformat` on its time. -/
def sampleIso (text : String) : Option Datetime :=
  if text = "1970-01-01T00:00:00+00:00" then some ⟨0, some 0⟩ else none

/-- The sample codec and Spark's reader behave as documented. -/
theorem documented_full :
    Documented (sampleSpark fullText fullEvent) (sampleCodec fullText fullObject) sampleIso := by
  refine ⟨?_, ?_⟩
  · intro text kvs e hloads hjson
    simp only [sampleCodec, Option.ite_none_right_eq_some] at hloads
    simp only [sampleSpark, Option.ite_none_right_eq_some] at hjson
    obtain ⟨-, hkvs⟩ := hloads
    obtain ⟨-, he⟩ := hjson
    obtain rfl := PyVal.dict.inj (Option.some.inj hkvs)
    obtain rfl := Option.some.inj he
    have hzero := FromJson.whole 64 0
    have hfour := FromJson.whole 32 4
    rw [if_pos (by decide)] at hzero hfour
    intro c hc
    simp only [eventSchema, List.mem_cons, List.not_mem_nil, or_false] at hc
    rcases hc with rfl | rfl | rfl | rfl | rfl | rfl | rfl | rfl | rfl | rfl | rfl | rfl | rfl |
      rfl | rfl | rfl | rfl | rfl
    all_goals first
      | exact FromJson.string _
      | exact FromJson.null _
      | exact FromJson.float _
      | exact hzero
      | exact hfour
  · intro text us d hus hd
    simp only [sampleSpark, Option.ite_none_right_eq_some] at hus
    obtain ⟨rfl, hus⟩ := hus
    obtain rfl := Option.some.inj hus
    obtain rfl := Option.some.inj hd
    rfl

/-- The row of the event without its optional fields. -/
theorem source_sample (m : KafkaMessage) (hm : m.value = some sampleText) :
    source (sampleSpark sampleText sampleEvent) m =
      ⟨some sampleText, m.topic, m.partition, m.offset, m.timestamp, false,
        { sampleEvent with eventTime := some 0 }⟩ := by
  have hjson : (sampleSpark sampleText sampleEvent).fromJson sampleText = some sampleEvent := by
    simp only [sampleSpark, if_true]
  rw [source, hm]
  simp only [Option.bind_some, hjson]
  rfl

/-- It has statements. -/
theorem sampleEvent_built (text topic : String) (partition offset kafkaTs : ℤ) (tables : List Table)
    (htables : tables = coreTables ∨ tables = allTables) : ∃ st stmts,
    buildStatements (⟨some text, topic, partition, offset, kafkaTs, false,
      { sampleEvent with eventTime := some 0 }⟩ : StreamRow).asDict tables 0 =
        .ok (st :: stmts) := by
  rcases htables with rfl | rfl
  · exact ⟨_, _, rfl⟩
  · exact ⟨_, _, rfl⟩

end TripPipeline.Replay
