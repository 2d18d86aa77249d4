import TripPipeline.Lib.KeyedTable
import TripPipeline.Lib.LastWrite
import TripPipeline.Streaming.Statements

/-!
# The serving tables are effectively once

A table of `sql/cassandra/schema.cql` is a map from primary keys to rows, and an INSERT of a log
replaces the row under its key (every INSERT sets every column of its table, `columns_eq_schema`).
The rows stored are those `build_statements` binds, for events with a naive UTC `event_time`.

* `Builds.params_eq`: a parameter tuple is its column list, filled with the fields of the event
  (`fieldOf`), but for `ingested_at_ms`; so every key column is a function of the event.
* **Effectively once** (`store_effectivelyOnce`): when equal trips are equal events, any two logs
  that execute the statements of the events, in any order, with any repetition and any write times,
  leave the same tables but for `ingested_at_ms`, with one row for each trip and the fields of the
  event in its columns.
* A trip is the UUID of `trip_id`, not its text: two spellings of one UUID share a row
  (`store_shares_row`).
-/

namespace TripPipeline.Serving

open TripPipeline.Common TripPipeline.Lib TripPipeline.Streaming

/-! ## Schema -/

/-- The columns of a table.
Source: `sql/cassandra/schema.cql` -/
def schemaColumns : Table → List String
  | .tripsById =>
      ["trip_id", "event_id", "event_time", "produced_at_ms", "ingested_at_ms", "city_id",
       "driver_id", "rider_id", "pickup_zone_id", "dropoff_zone_id", "vehicle_class",
       "payment_type", "distance_km", "duration_sec", "fare_amount", "surge_multiplier", "status",
       "producer_id", "schema_version"]
  | .tripsByDriverDay =>
      ["driver_id", "event_date", "event_time", "trip_id", "event_id", "city_id", "rider_id",
       "vehicle_class", "payment_type", "distance_km", "duration_sec", "fare_amount",
       "surge_multiplier", "status", "ingested_at_ms"]
  | .tripsByCityHour =>
      ["city_id", "event_hour", "trip_id", "event_id", "event_time", "driver_id", "rider_id",
       "pickup_zone_id", "dropoff_zone_id", "vehicle_class", "payment_type", "distance_km",
       "duration_sec", "fare_amount", "surge_multiplier", "status", "ingested_at_ms"]

/-- The primary key of a table: partition key, then clustering columns.
Source: `sql/cassandra/schema.cql` -/
def primaryKey : Table → List String
  | .tripsById => ["trip_id"]
  | .tripsByDriverDay => ["driver_id", "event_date", "event_time", "trip_id"]
  | .tripsByCityHour => ["city_id", "event_hour", "trip_id"]

/-- Every INSERT sets every column of its table, so it replaces the row under its key. -/
theorem columns_eq_schema (t : Table) : columns t = schemaColumns t := by
  cases t <;> rfl

/-- A key column is a column, and never the write time. -/
theorem mem_columns_of_mem_primaryKey {t : Table} {c : String} (h : c ∈ primaryKey t) :
    c ∈ columns t ∧ c ≠ "ingested_at_ms" := by
  revert c
  cases t <;> decide

/-- Every key names the trip. -/
theorem trip_mem_primaryKey (t : Table) : "trip_id" ∈ primaryKey t := by
  cases t <;> decide

/-! ## Stored rows -/

/-- The row an INSERT writes: its columns with the parameters bound to them. -/
def storedRow (s : Statement) : Dict := (columns s.key).zip s.params

/-- The primary key of the row an INSERT writes. -/
def keyOf (s : Statement) : List PyVal := (primaryKey s.key).map (Dict.get (storedRow s))

/-- A stored row without its write time. -/
def withoutWriteTime (row : Dict) : Dict := row.filter fun kv => kv.1 ≠ "ingested_at_ms"

/-- The writes of a log to one table. -/
def writesTo (log : List Statement) (t : Table) : List (List PyVal × Dict) :=
  (log.filter (·.key = t)).map fun s => (keyOf s, storedRow s)

/-- Keys are compared as values. -/
noncomputable instance : DecidableEq PyVal := Classical.decEq PyVal

/-- The table that a log of executed statements leaves. -/
noncomputable def store (log : List Statement) (t : Table) : List PyVal → Option Dict :=
  replay (writesTo log t)

/-! ## Fields of an event -/

/-- The fields of a trip event. -/
def eventFields : List String := "trip_id" :: "event_id" :: "event_time" :: rowFields

/-- Two rows that carry one event. -/
def SameEvent (row row' : Dict) : Prop := ∀ f ∈ eventFields, row.lookup f = row'.lookup f

/-- The UUID a text field denotes. -/
def uuidField (row : Dict) (field : String) : Option ℕ :=
  match row.lookup field with
  | some (.str text) => uuidOfText text
  | _ => none

/-- The trip of a row. -/
def tripOf (row : Dict) : Option ℕ := uuidField row "trip_id"

/-- A naive UTC `event_time`, in microseconds since the epoch. -/
def utcMicros (row : Dict) : Option ℤ :=
  match row.lookup "event_time" with
  | some (.datetime ⟨us, none⟩) => some us
  | _ => none

/-- What a column holds of an event: the field it is named after, the UUIDs as UUIDs, `event_time`
as an instant, `event_date` and `event_hour` its UTC date and hour. -/
def fieldOf (row : Dict) : String → PyVal
  | "trip_id" => .ofOption .uuid (tripOf row)
  | "event_id" => .ofOption .uuid (uuidField row "event_id")
  | "event_time" => .ofOption (fun us => .datetime ⟨us, some 0⟩) (utcMicros row)
  | "event_date" => .ofOption (fun us => .date (us / Datetime.dayUs)) (utcMicros row)
  | "event_hour" =>
      .ofOption (fun us => .datetime ⟨us - us % Datetime.hourUs, some 0⟩) (utcMicros row)
  | field => Dict.get row field

/-- A row `build_statements` accepts, with a naive UTC `event_time`. -/
structure Accepted (row : Dict) : Prop where
  buildable : Buildable row
  naive : (utcMicros row).isSome

/-- A statement of the event of a row, built at some time. -/
def Builds (row : Dict) (s : Statement) : Prop :=
  ∃ ingestedAtMs out, buildStatements row allTables ingestedAtMs = .ok out ∧ s ∈ out

/-- A log that executes the statements of the rows, each at least once, and no others. -/
structure Executes (rows : List Dict) (log : List Statement) : Prop where
  sound : ∀ s ∈ log, ∃ row ∈ rows, Builds row s
  complete : ∀ row ∈ rows, ∀ t, ∃ s ∈ log, s.key = t ∧ Builds row s

/-! ## What a statement stores -/

/-- The parameter expression that stands for a column. -/
def paramFor : String → Param
  | "trip_id" => .tripUuid
  | "event_id" => .eventUuid
  | "event_time" => .et
  | "event_date" => .eventDate
  | "event_hour" => .eventHour
  | "ingested_at_ms" => .ingestedAtMs
  | field => .row field

/-- Every positional parameter stands for its column. -/
theorem params_eq_map (t : Table) : params t = (columns t).map paramFor := by
  cases t <;> simp [params, columns, paramFor]

/-- What a column of a statement written at a time holds. -/
def storedField (row : Dict) (ingestedAtMs : ℤ) (c : String) : PyVal :=
  if c = "ingested_at_ms" then .int ingestedAtMs else fieldOf row c

/-- A column that is not computed is read from the row. -/
theorem fieldOf_of_ne {row : Dict} {c : String} (h₁ : c ≠ "trip_id") (h₂ : c ≠ "event_id")
    (h₃ : c ≠ "event_time") (h₄ : c ≠ "event_date") (h₅ : c ≠ "event_hour") :
    fieldOf row c = Dict.get row c := by
  unfold fieldOf
  split <;> first | contradiction | rfl

/-- A field that casts to a UUID is that UUID. -/
theorem uuidField_of_ok {row : Dict} {field : String} {n : ℕ}
    (h : (Dict.item row field >>= uuidUUID) = .ok n) : uuidField row field = some n := by
  obtain ⟨v, hv, hn⟩ := bind_eq_ok_iff.mp h
  obtain ⟨text, rfl, htext⟩ := uuidUUID_ok_iff.mp hn
  rw [uuidField, item_ok_iff.mp hv]
  exact htext

/-- A naive UTC time, and the bindings `build_statements` makes of it. -/
theorem utcMicros_of_ok {row : Dict} {et : Datetime} (hnaive : (utcMicros row).isSome)
    (h : (Dict.item row "event_time" >>= asDatetime) = .ok et) :
    ∃ us, utcMicros row = some us ∧ et = ⟨us, none⟩ := by
  obtain ⟨v, hv, hd⟩ := bind_eq_ok_iff.mp h
  obtain rfl := asDatetime_ok_iff.mp hd
  obtain ⟨us, hus⟩ := Option.isSome_iff_exists.mp hnaive
  refine ⟨us, hus, ?_⟩
  obtain ⟨wall, _ | offset⟩ := et
  · rw [utcMicros, item_ok_iff.mp hv] at hus
    rw [Option.some.inj hus]
  · rw [utcMicros, item_ok_iff.mp hv] at hus
    cases hus

/-- **A parameter is the field its column is named after**, but for the write time. -/
theorem eval_paramFor {row : Dict} (hacc : Accepted row) {ingestedAtMs : ℤ} {b : Bindings}
    (hb : bindings row ingestedAtMs = .ok b) {c : String} {v : PyVal}
    (h : Param.eval b row (paramFor c) = .ok v) : v = storedField row ingestedAtMs c := by
  obtain ⟨trip, event, et, htrip, hevent, het, rfl⟩ := (bindings_ok_iff _ _ _).mp hb
  obtain ⟨us, hus, rfl⟩ := utcMicros_of_ok hacc.naive het
  have htrip := uuidField_of_ok htrip
  have hevent := uuidField_of_ok hevent
  unfold paramFor at h
  -- one case for each bound name, then the fields of the row
  split at h
  · rw [← Except.ok.inj h, storedField, if_neg (by decide), fieldOf, tripOf, htrip]
    rfl
  · rw [← Except.ok.inj h, storedField, if_neg (by decide), fieldOf, hevent]
    rfl
  · rw [← Except.ok.inj h, storedField, if_neg (by decide), fieldOf, hus]
    rfl
  · rw [← Except.ok.inj h, storedField, if_neg (by decide), fieldOf, hus]
    rfl
  · rw [← Except.ok.inj h, storedField, if_neg (by decide), fieldOf, hus]
    rfl
  · rw [← Except.ok.inj h, storedField, if_pos rfl]
  · next h₁ h₂ h₃ h₄ h₅ h₆ =>
      rw [storedField, if_neg h₆, fieldOf_of_ne h₁ h₂ h₃ h₄ h₅, Dict.get, item_ok_iff.mp h]
      rfl

/-- **The tuple of a statement**: its columns, filled with the fields of the event. -/
theorem Builds.params_eq {row : Dict} (hacc : Accepted row) {s : Statement} (h : Builds row s) :
    ∃ ingestedAtMs, s.params = (columns s.key).map (storedField row ingestedAtMs) := by
  obtain ⟨ingestedAtMs, out, hout, hs⟩ := h
  obtain ⟨-, b, hb, hall⟩ := (buildStatements_ok_iff _ _ _ _).mp hout
  obtain ⟨t, -, hst⟩ := exists_of_mem_right hall hs
  obtain ⟨rfl, hparams⟩ := (statement_ok_iff _ _ _ _).mp hst
  refine ⟨ingestedAtMs, ?_⟩
  rw [params_eq_map, mapM_eq_ok_iff, List.forall₂_map_left_iff] at hparams
  have heq := hparams.imp fun c v hv => (eval_paramFor hacc hb hv).symm
  rw [← List.forall₂_map_left_iff (f := storedField row ingestedAtMs), List.forall₂_eq_eq_eq] at heq
  exact heq.symm

/-- A column of a list of columns has its value. -/
theorem lookup_map_self {l : List String} {f : String → PyVal} {c : String} (h : c ∈ l) :
    (l.map fun c => (c, f c)).lookup c = some (f c) := by
  induction l with
  | nil => cases h
  | cons c' l ih =>
      rw [List.map_cons, Dict.lookup_cons_ite]
      by_cases hc : c = c'
      · rw [if_pos hc, hc]
      · rw [if_neg hc]
        exact ih ((List.mem_cons.mp h).resolve_left hc)

/-- **The row of a statement.** -/
theorem Builds.storedRow_eq {row : Dict} (hacc : Accepted row) {s : Statement} (h : Builds row s) :
    ∃ ingestedAtMs,
      storedRow s = (columns s.key).map fun c => (c, storedField row ingestedAtMs c) := by
  obtain ⟨ingestedAtMs, hparams⟩ := h.params_eq hacc
  refine ⟨ingestedAtMs, ?_⟩
  have hzip : (columns s.key).zip ((columns s.key).map (storedField row ingestedAtMs)) =
      (columns s.key).map fun c => (c, storedField row ingestedAtMs c) := by
    simpa using List.zip_map' (f := id) (g := storedField row ingestedAtMs) (l := columns s.key)
  rw [storedRow, hparams, hzip]

/-- A stored row has, but for the write time, the fields of its row. -/
theorem Builds.lookup_storedRow {row : Dict} (hacc : Accepted row) {s : Statement}
    (h : Builds row s) {c : String} (hc : c ∈ columns s.key) (hne : c ≠ "ingested_at_ms") :
    (storedRow s).lookup c = some (fieldOf row c) := by
  obtain ⟨ingestedAtMs, hrow⟩ := h.storedRow_eq hacc
  rw [hrow, lookup_map_self hc, storedField, if_neg hne]

/-- **The key of a statement is a function of the event.** -/
theorem Builds.keyOf_eq {row : Dict} (hacc : Accepted row) {s : Statement} (h : Builds row s) :
    keyOf s = (primaryKey s.key).map (fieldOf row) := by
  rw [keyOf]
  apply List.map_congr_left
  intro c hc
  obtain ⟨hcolumn, hne⟩ := mem_columns_of_mem_primaryKey hc
  rw [Dict.get, h.lookup_storedRow hacc hcolumn hne]
  rfl

/-- **The rest of the row is a function of the event.** -/
theorem Builds.withoutWriteTime_eq {row : Dict} (hacc : Accepted row) {s : Statement}
    (h : Builds row s) :
    withoutWriteTime (storedRow s) =
      ((columns s.key).filter (· ≠ "ingested_at_ms")).map fun c => (c, fieldOf row c) := by
  obtain ⟨ingestedAtMs, hrow⟩ := h.storedRow_eq hacc
  rw [withoutWriteTime, hrow, List.filter_map]
  apply List.map_congr_left
  intro c hc
  have hne : c ≠ "ingested_at_ms" := by simpa using (List.mem_filter.mp hc).2
  rw [storedField, if_neg hne]

/-- A column is named after a field, or is derived from the time, or is the write time. -/
theorem mem_eventFields_of_mem_columns {t : Table} {c : String} (h : c ∈ columns t) :
    c ∈ eventFields ∨ c ∈ ["event_date", "event_hour", "ingested_at_ms"] := by
  revert c
  cases t <;> decide

/-- One event has one set of fields. -/
theorem SameEvent.fieldOf_eq {row row' : Dict} (h : SameEvent row row') {t : Table} {c : String}
    (hc : c ∈ columns t) (hne : c ≠ "ingested_at_ms") : fieldOf row c = fieldOf row' c := by
  have hfield : ∀ f ∈ eventFields, row.lookup f = row'.lookup f := h
  have huuid : ∀ f ∈ eventFields, uuidField row f = uuidField row' f := by
    intro f hf
    rw [uuidField, uuidField, hfield f hf]
  have htime : utcMicros row = utcMicros row' := by
    rw [utcMicros, utcMicros, hfield "event_time" (by decide)]
  unfold fieldOf
  split
  · rw [tripOf, tripOf, huuid "trip_id" (by decide)]
  · rw [huuid "event_id" (by decide)]
  · rw [htime]
  · rw [htime]
  · rw [htime]
  · next h₁ h₂ h₃ h₄ h₅ =>
      rcases mem_eventFields_of_mem_columns hc with hmem | hmem
      · rw [Dict.get, Dict.get, hfield c hmem]
      · simp only [List.mem_cons, List.not_mem_nil, or_false] at hmem
        rcases hmem with hdate | hhour | hwrite
        · exact (h₄ hdate).elim
        · exact (h₅ hhour).elim
        · exact absurd hwrite hne

/-! ## Logs -/

variable {rows : List Dict} {log log' : List Statement} {t : Table}

/-- A row that is taken has a trip. -/
theorem Accepted.exists_tripOf {row : Dict} (h : Accepted row) : ∃ u, tripOf row = some u := by
  obtain ⟨text, u, hlookup, hu⟩ := h.buildable.trip
  refine ⟨u, ?_⟩
  rw [tripOf, uuidField, hlookup]
  exact hu

/-- Equal keys name equal trips. -/
theorem tripOf_eq_of_keys {row row' : Dict} (hacc : Accepted row) (hacc' : Accepted row')
    (h : (primaryKey t).map (fieldOf row) = (primaryKey t).map (fieldOf row')) :
    tripOf row = tripOf row' := by
  rw [List.map_inj_left] at h
  have htrip := h "trip_id" (trip_mem_primaryKey t)
  obtain ⟨u, hu⟩ := hacc.exists_tripOf
  obtain ⟨u', hu'⟩ := hacc'.exists_tripOf
  rw [fieldOf, fieldOf, hu, hu', PyVal.ofOption_some, PyVal.ofOption_some] at htrip
  rw [hu, hu', PyVal.uuid.inj htrip]

/-- The writes to a table are the statements for it. -/
theorem mem_writesTo_iff {w : List PyVal × Dict} :
    w ∈ writesTo log t ↔ ∃ s ∈ log, s.key = t ∧ w = (keyOf s, storedRow s) := by
  simp only [writesTo, List.mem_map, List.mem_filter, decide_eq_true_eq]
  constructor
  · rintro ⟨s, ⟨hs, ht⟩, rfl⟩
    exact ⟨s, hs, ht, rfl⟩
  · rintro ⟨s, hs, ht, rfl⟩
    exact ⟨s, ⟨hs, ht⟩, rfl⟩

section Trips

variable (hacc : ∀ row ∈ rows, Accepted row)
  (htrip : ∀ row ∈ rows, ∀ row' ∈ rows, tripOf row = tripOf row' → SameEvent row row')

include hacc htrip

/-- Statements for one table with one key write one row, but for its write time. -/
theorem view_eq_of_keyOf_eq {row row' : Dict} (hrow : row ∈ rows) (hrow' : row' ∈ rows)
    {s s' : Statement} (hs : Builds row s) (hs' : Builds row' s') (ht : s.key = s'.key)
    (hkey : keyOf s = keyOf s') :
    withoutWriteTime (storedRow s) = withoutWriteTime (storedRow s') := by
  rw [hs.keyOf_eq (hacc row hrow), hs'.keyOf_eq (hacc row' hrow'), ← ht] at hkey
  have hsame := htrip row hrow row' hrow' (tripOf_eq_of_keys (hacc row hrow) (hacc row' hrow') hkey)
  rw [hs.withoutWriteTime_eq (hacc row hrow), hs'.withoutWriteTime_eq (hacc row' hrow'), ← ht]
  apply List.map_congr_left
  intro c hc
  obtain ⟨hcolumn, hne⟩ := List.mem_filter.mp hc
  rw [hsame.fieldOf_eq hcolumn (by simpa using hne)]

/-- The writes to a table under one key agree but for the write time. -/
theorem Executes.consistent (hlog : Executes rows log) (t : Table) :
    Consistent withoutWriteTime (writesTo log t) := by
  intro w hw w' hw' hkey
  obtain ⟨s, hs, hst, rfl⟩ := mem_writesTo_iff.mp hw
  obtain ⟨s', hs', hst', rfl⟩ := mem_writesTo_iff.mp hw'
  obtain ⟨row, hrow, hbuild⟩ := hlog.sound s hs
  obtain ⟨row', hrow', hbuild'⟩ := hlog.sound s' hs'
  exact view_eq_of_keyOf_eq hacc htrip hrow hrow' hbuild hbuild' (hst.trans hst'.symm) hkey

/-- What one log writes, any other log writes under the same key. -/
theorem Executes.exists_same_write (hlog : Executes rows log) (hlog' : Executes rows log')
    {w : List PyVal × Dict} (hw : w ∈ writesTo log t) :
    ∃ w' ∈ writesTo log' t, w'.1 = w.1 ∧ withoutWriteTime w'.2 = withoutWriteTime w.2 := by
  obtain ⟨s, hs, rfl, rfl⟩ := mem_writesTo_iff.mp hw
  obtain ⟨row, hrow, hbuild⟩ := hlog.sound s hs
  obtain ⟨s', hs', ht, hbuild'⟩ := hlog'.complete row hrow s.key
  have hkey : keyOf s' = keyOf s := by
    rw [hbuild.keyOf_eq (hacc row hrow), hbuild'.keyOf_eq (hacc row hrow), ht]
  exact ⟨_, mem_writesTo_iff.mpr ⟨s', hs', ht, rfl⟩, hkey,
    view_eq_of_keyOf_eq hacc htrip hrow hrow hbuild' hbuild ht hkey⟩

/-- **The tables do not depend on the log.** -/
theorem store_congr (hlog : Executes rows log) (hlog' : Executes rows log') (k : List PyVal) :
    (store log t k).map withoutWriteTime = (store log' t k).map withoutWriteTime := by
  refine map_view_replay_congr (hlog.consistent hacc htrip t) (hlog'.consistent hacc htrip t)
    ?_ ?_ k
  · intro w hw
    exact hlog.exists_same_write hacc htrip hlog' hw
  · intro w' hw'
    obtain ⟨w, hw, hkey, -⟩ := hlog'.exists_same_write hacc htrip hlog hw'
    exact ⟨w, hw, hkey⟩

omit htrip

/-- **A stored row is the row of an event**, under its own key. -/
theorem store_row (hlog : Executes rows log) {k : List PyVal} {r : Dict}
    (h : store log t k = some r) :
    k = (primaryKey t).map (Dict.get r) ∧ r.map Prod.fst = schemaColumns t ∧
      ∃ row ∈ rows, k = (primaryKey t).map (fieldOf row) ∧
        ∀ c ∈ columns t, c ≠ "ingested_at_ms" → r.lookup c = some (fieldOf row c) := by
  obtain ⟨s, hs, rfl, heq⟩ := mem_writesTo_iff.mp (mem_of_replay_eq_some h)
  obtain ⟨rfl, rfl⟩ := Prod.mk.inj heq
  obtain ⟨row, hrow, hbuild⟩ := hlog.sound s hs
  refine ⟨rfl, ?_, row, hrow, hbuild.keyOf_eq (hacc row hrow), ?_⟩
  · obtain ⟨ingestedAtMs, hstored⟩ := hbuild.storedRow_eq (hacc row hrow)
    rw [hstored, List.map_map, ← columns_eq_schema]
    exact List.map_id _
  · intro c hc hne
    exact hbuild.lookup_storedRow (hacc row hrow) hc hne

/-- The trip a stored row names is the trip of the event it is the row of. -/
theorem tripOf_eq_of_lookup {row r : Dict} {u : ℕ} (hrow : row ∈ rows)
    (hfields : ∀ c ∈ columns t, c ≠ "ingested_at_ms" → r.lookup c = some (fieldOf row c)) :
    r.lookup "trip_id" = some (.uuid u) ↔ tripOf row = some u := by
  obtain ⟨hcolumn, hne⟩ := mem_columns_of_mem_primaryKey (trip_mem_primaryKey t)
  obtain ⟨v, hv⟩ := (hacc row hrow).exists_tripOf
  rw [hfields _ hcolumn hne, fieldOf, hv, PyVal.ofOption_some]
  simp

include htrip

/-- **Every table holds one row for each trip.** -/
theorem store_existsUnique (hlog : Executes rows log) {row : Dict} (hrow : row ∈ rows) {u : ℕ}
    (hu : tripOf row = some u) :
    ∃! k, ∃ r, store log t k = some r ∧ r.lookup "trip_id" = some (.uuid u) := by
  have hone : ∀ k r, store log t k = some r → r.lookup "trip_id" = some (.uuid u) →
      k = (primaryKey t).map (fieldOf row) := by
    intro k r hr htripId
    obtain ⟨-, -, row', hrow', rfl, hfields⟩ := store_row hacc hlog hr
    have hu' := (tripOf_eq_of_lookup hacc hrow' hfields).mp htripId
    have hsame := htrip row' hrow' row hrow (hu'.trans hu.symm)
    apply List.map_congr_left
    intro c hc
    obtain ⟨hcolumn, hne⟩ := mem_columns_of_mem_primaryKey hc
    exact hsame.fieldOf_eq hcolumn hne
  obtain ⟨s, hs, rfl, hbuild⟩ := hlog.complete row hrow t
  have hmem := List.mem_map_of_mem (f := Prod.fst) (mem_writesTo_iff.mpr ⟨s, hs, rfl, rfl⟩)
  obtain ⟨r, hr⟩ := Option.isSome_iff_exists.mp (replay_isSome_iff.mpr hmem)
  obtain ⟨-, -, row', hrow', hkey, hfields⟩ := store_row hacc hlog hr
  refine ⟨keyOf s, ⟨r, hr, ?_⟩, ?_⟩
  · apply (tripOf_eq_of_lookup hacc hrow' hfields).mpr
    rw [hbuild.keyOf_eq (hacc row hrow)] at hkey
    rw [← tripOf_eq_of_keys (hacc row hrow) (hacc row' hrow') hkey, hu]
  · rintro k ⟨r', hr', htripId⟩
    rw [hone k r' hr' htripId, hbuild.keyOf_eq (hacc row hrow)]

end Trips

/-! ## The rows of the stream -/

/-- The streaming path supplies naive UTC times. -/
theorem accepted_asDict {r : StreamRow} (h : Buildable r.asDict) : Accepted r.asDict := by
  obtain ⟨d, hd⟩ := h.time
  have hlookup : r.asDict.lookup "event_time" =
      some (.ofOption (fun us => .datetime (StreamRow.naiveUtc us)) r.event.eventTime) := rfl
  refine ⟨h, ?_⟩
  rw [utcMicros, hlookup]
  rw [hlookup] at hd
  rcases hus : r.event.eventTime with _ | us
  · rw [hus] at hd
    cases hd
  · rfl

/-- Redeliveries at other offsets carry the same event. -/
theorem sameEvent_asDict {r r' : StreamRow} (h : r.event = r'.event) :
    SameEvent r.asDict r'.asDict := by
  intro f hf
  unfold StreamRow.asDict
  rw [h]
  simp only [eventFields, rowFields, List.mem_cons, List.not_mem_nil, or_false] at hf
  rcases hf with rfl | rfl | rfl | rfl | rfl | rfl | rfl | rfl | rfl | rfl | rfl | rfl | rfl | rfl |
    rfl | rfl | rfl | rfl <;> rfl

/-! ## Redeliveries -/

/-- The statements of an event are one for each table. -/
theorem exists_filter_key {row : Dict} {ingestedAtMs : ℤ} {out : List Statement}
    (h : buildStatements row allTables ingestedAtMs = .ok out) (t : Table) :
    ∃ s ∈ out, s.key = t ∧ out.filter (·.key = t) = [s] := by
  have hkeys : out.map Statement.key = allTables := buildStatements_keys h
  obtain ⟨s, hs, rfl⟩ : ∃ s ∈ out, s.key = t := by
    apply List.mem_map.mp
    rw [hkeys]
    cases t <;> simp [allTables]
  have hnodup : (out.map Statement.key).Nodup := by
    rw [hkeys]
    decide
  exact ⟨s, hs, rfl, filter_key_eq_singleton hnodup hs⟩

/-- A delivery of an event, new or known, executes its statements once more. -/
theorem Executes.deliver (h : Executes rows log) {row : Dict} {ingestedAtMs : ℤ}
    {out : List Statement} (hout : buildStatements row allTables ingestedAtMs = .ok out) :
    Executes (rows ++ [row]) (log ++ out) := by
  constructor
  · intro s hs
    rcases List.mem_append.mp hs with hs | hs
    · obtain ⟨row', hrow', hbuild⟩ := h.sound s hs
      exact ⟨row', List.mem_append_left _ hrow', hbuild⟩
    · exact ⟨row, List.mem_append_right _ (List.mem_singleton_self _), ingestedAtMs, out, hout, hs⟩
  · intro row' hrow' t
    rcases List.mem_append.mp hrow' with hrow' | hrow'
    · obtain ⟨s, hs, hst⟩ := h.complete row' hrow' t
      exact ⟨s, List.mem_append_left _ hs, hst⟩
    · obtain rfl := List.mem_singleton.mp hrow'
      obtain ⟨s, hs, hkey, -⟩ := exists_filter_key hout t
      exact ⟨s, List.mem_append_right _ hs, hkey, ingestedAtMs, out, hout, hs⟩

/-- Nothing was executed for no rows. -/
theorem executes_nil : Executes [] [] := by
  constructor
  · intro s hs
    cases hs
  · intro row hrow
    cases hrow

/-- The order of the statements is free, and so is the order and repetition of the rows. -/
theorem Executes.of_mem_iff {rows' : List Dict} (h : Executes rows log)
    (hrows : ∀ row, row ∈ rows ↔ row ∈ rows') (hlog : ∀ s, s ∈ log ↔ s ∈ log') :
    Executes rows' log' := by
  constructor
  · intro s hs
    obtain ⟨row, hrow, hbuild⟩ := h.sound s ((hlog s).mpr hs)
    exact ⟨row, (hrows row).mp hrow, hbuild⟩
  · intro row hrow t
    obtain ⟨s, hs, hst⟩ := h.complete row ((hrows row).mpr hrow) t
    exact ⟨s, (hlog s).mp hs, hst⟩

/-- **The last delivery under a key stands.** -/
theorem store_append {row : Dict} (hacc : Accepted row) {ingestedAtMs : ℤ} {out : List Statement}
    (h : buildStatements row allTables ingestedAtMs = .ok out) (log : List Statement) (t : Table) :
    (store (log ++ out) t ((primaryKey t).map (fieldOf row))).map withoutWriteTime =
      some (((columns t).filter (· ≠ "ingested_at_ms")).map fun c => (c, fieldOf row c)) := by
  obtain ⟨s, hs, rfl, hfilter⟩ := exists_filter_key h t
  have hbuild : Builds row s := ⟨ingestedAtMs, out, h, hs⟩
  have hwrites : writesTo (log ++ out) s.key =
      writesTo log s.key ++ [(keyOf s, storedRow s)] := by
    rw [writesTo, List.filter_append, hfilter, List.map_append]
    rfl
  rw [store, hwrites, replay_append_singleton, upsert, ← hbuild.keyOf_eq hacc, Function.update_self,
    Option.map_some, hbuild.withoutWriteTime_eq hacc]

/-! ## Three rows -/

/-- A row of the stream with this trip and driver. -/
def rowOf (trip driver : String) : Dict :=
  [("event_id", .str "00000000-0000-0000-0000-000000000001"), ("trip_id", .str trip),
   ("event_time", .datetime ⟨1700000000000000, none⟩), ("produced_at_ms", .int 1700000000100),
   ("city_id", .str "nyc"), ("driver_id", .str driver), ("rider_id", .str "r-1"),
   ("pickup_zone_id", .int 4), ("dropoff_zone_id", .int 7), ("vehicle_class", .str "standard"),
   ("payment_type", .str "card"), ("distance_km", .float 3), ("duration_sec", .int 600),
   ("fare_amount", .float 12), ("surge_multiplier", .float 1), ("status", .str "completed"),
   ("producer_id", .str "p-0"), ("schema_version", .int 1)]

/-- A sample row with a UUID and a driver is taken. -/
theorem rowOf_accepted {trip driver : String} {n : ℕ} (htrip : uuidOfText trip = some n)
    (htext : trip ≠ "") (hdriver : driver ≠ "") : Accepted (rowOf trip driver) := by
  have hevent : uuidOfText "00000000-0000-0000-0000-000000000001" = some 1 := by decide +kernel
  refine ⟨⟨⟨?_, rfl, rfl⟩, ⟨trip, n, rfl, htrip⟩, ⟨_, 1, rfl, hevent⟩, ⟨_, rfl⟩, ?_⟩, rfl⟩
  · intro field hfield
    simp only [requiredFields, List.mem_cons, List.not_mem_nil, or_false] at hfield
    have hstr : ∀ s : String, s ≠ "" → (PyVal.str s).isMissing = false :=
      fun s hs => decide_eq_false hs
    rcases hfield with rfl | rfl | rfl | rfl | rfl
    · exact hstr "00000000-0000-0000-0000-000000000001" (by decide)
    · exact hstr trip htext
    · rfl
    · exact hstr "nyc" (by decide)
    · exact hstr driver hdriver
  · intro field hfield
    simp only [rowFields, List.mem_cons, List.not_mem_nil, or_false] at hfield
    rcases hfield with rfl | rfl | rfl | rfl | rfl | rfl | rfl | rfl | rfl | rfl | rfl | rfl |
      rfl | rfl | rfl <;> exact ⟨_, rfl⟩

/-- The statements of a row at a time (none if it has none). -/
def statementsOf (row : Dict) (ingestedAtMs : ℤ) : List Statement :=
  (buildStatements row allTables ingestedAtMs).toOption.getD []

/-- A row that is taken has its three statements. -/
theorem Accepted.statementsOf_eq {row : Dict} (h : Accepted row) (ingestedAtMs : ℤ) :
    buildStatements row allTables ingestedAtMs = .ok (statementsOf row ingestedAtMs) := by
  obtain ⟨out, hout⟩ := (buildStatements_allTables_iff row ingestedAtMs).mpr h.buildable
  rw [statementsOf, hout]
  rfl

/-- The log of two rows, one after the other. -/
theorem Accepted.executes_pair {row row' : Dict} (h : Accepted row) (h' : Accepted row')
    (ingestedAtMs ingestedAtMs' : ℤ) :
    Executes [row, row'] (statementsOf row ingestedAtMs ++ statementsOf row' ingestedAtMs') := by
  have hpair := (executes_nil.deliver (h.statementsOf_eq ingestedAtMs)).deliver
    (h'.statementsOf_eq ingestedAtMs')
  simpa only [List.nil_append, List.cons_append] using hpair

/-- A trip, its UUID in other letters, and another trip. -/
def tripText : String := "00000000-0000-0000-0000-00000000002a"

def tripUpper : String := "00000000-0000-0000-0000-00000000002A"

def otherText : String := "00000000-0000-0000-0000-00000000002b"

/-- Two spellings of one UUID, and another UUID. -/
theorem uuid_texts : uuidOfText tripText = some 42 ∧ uuidOfText tripUpper = some 42 ∧
    uuidOfText otherText = some 43 := by decide +kernel

/-- Two rows of one trip, and one of another. -/
def lowerRow : Dict := rowOf tripText "d-1"

def upperRow : Dict := rowOf tripUpper "d-2"

def otherRow : Dict := rowOf otherText "d-2"

/-- The lower-case row is taken. -/
theorem lowerRow_accepted : Accepted lowerRow :=
  rowOf_accepted uuid_texts.1 (by decide) (by decide)

/-- The upper-case row is taken. -/
theorem upperRow_accepted : Accepted upperRow :=
  rowOf_accepted uuid_texts.2.1 (by decide) (by decide)

/-- The row of the other trip is taken. -/
theorem otherRow_accepted : Accepted otherRow :=
  rowOf_accepted uuid_texts.2.2 (by decide) (by decide)

/-- The lower-case row is about trip 42. -/
theorem tripOf_lowerRow : tripOf lowerRow = some 42 := uuid_texts.1

/-- The upper-case row is about trip 42. -/
theorem tripOf_upperRow : tripOf upperRow = some 42 := uuid_texts.2.1

/-- The other row is about trip 43. -/
theorem tripOf_otherRow : tripOf otherRow = some 43 := uuid_texts.2.2

/-- Two accepted rows that a test tells apart: rows equal under the test are the same event. -/
theorem pair_sameEvent {α : Type} {test : Dict → α} {row row' : Dict} (h : test row ≠ test row') :
    ∀ x ∈ [row, row'], ∀ y ∈ [row, row'], test x = test y → SameEvent x y := by
  intro x hx y hy heq
  rcases List.mem_pair.mp hx with rfl | rfl <;> rcases List.mem_pair.mp hy with rfl | rfl
  · exact fun _ _ => rfl
  · exact absurd heq h
  · exact absurd heq.symm h
  · exact fun _ _ => rfl

/-- Each row once. -/
def onceEach : List Statement := statementsOf lowerRow 1 ++ statementsOf otherRow 2

/-- The other trip twice, and all in reverse. -/
def againReversed : List Statement := (onceEach ++ statementsOf otherRow 3).reverse

/-- One log executes each row once. -/
theorem executes_onceEach : Executes [lowerRow, otherRow] onceEach :=
  lowerRow_accepted.executes_pair otherRow_accepted 1 2

/-- The other log executes the rows again, the last first. -/
theorem executes_againReversed : Executes [lowerRow, otherRow] againReversed := by
  refine (executes_onceEach.deliver (otherRow_accepted.statementsOf_eq 3)).of_mem_iff ?_ ?_
  · intro row
    simp
  · intro s
    rw [againReversed, List.mem_reverse]

/-! ## Effectively once -/

/-- **Effectively once**: logs of the same events leave the same tables but for `ingested_at_ms`,
each table has one row for each trip, and a row holds the fields of its event. -/
theorem store_effectivelyOnce (hacc : ∀ row ∈ rows, Accepted row)
    (htrip : ∀ row ∈ rows, ∀ row' ∈ rows, tripOf row = tripOf row' → SameEvent row row')
    (hlog : Executes rows log) (hlog' : Executes rows log') (t : Table) :
    (∀ k, (store log t k).map withoutWriteTime = (store log' t k).map withoutWriteTime) ∧
      (∀ row ∈ rows, ∃ u, tripOf row = some u ∧
        ∃! k, ∃ r, store log t k = some r ∧ r.lookup "trip_id" = some (.uuid u)) ∧
      ∀ k r, store log t k = some r →
        k = (primaryKey t).map (Dict.get r) ∧ r.map Prod.fst = schemaColumns t ∧
          ∃ row ∈ rows, ∀ c ∈ schemaColumns t, c ≠ "ingested_at_ms" →
            r.lookup c = some (fieldOf row c) := by
  refine ⟨store_congr hacc htrip hlog hlog', ?_, ?_⟩
  · intro row hrow
    obtain ⟨u, hu⟩ := (hacc row hrow).exists_tripOf
    exact ⟨u, hu, store_existsUnique hacc htrip hlog hrow hu⟩
  · intro k r hr
    obtain ⟨hkey, hcolumns, row, hrow, -, hfields⟩ := store_row hacc hlog hr
    rw [columns_eq_schema] at hfields
    exact ⟨hkey, hcolumns, row, hrow, hfields⟩

/-- The general result at two trips written once and again. -/
theorem store_effectivelyOnce_two_trips :
    Executes [lowerRow, otherRow] onceEach ∧ Executes [lowerRow, otherRow] againReversed ∧
      ∀ t k, (store onceEach t k).map withoutWriteTime =
        (store againReversed t k).map withoutWriteTime := by
  have hacc : ∀ row ∈ [lowerRow, otherRow], Accepted row := by
    intro row hrow
    rcases List.mem_pair.mp hrow with rfl | rfl
    · exact lowerRow_accepted
    · exact otherRow_accepted
  have hne : tripOf lowerRow ≠ tripOf otherRow := by
    rw [tripOf_lowerRow, tripOf_otherRow]
    decide
  refine ⟨executes_onceEach, executes_againReversed, ?_⟩
  intro t
  exact (store_effectivelyOnce hacc (pair_sameEvent hne) executes_onceEach executes_againReversed
    t).1

/-- Both rows of the trip executed, one or the other the last. -/
def upperLast : List Statement := statementsOf lowerRow 1 ++ statementsOf upperRow 2

def lowerLast : List Statement := statementsOf upperRow 1 ++ statementsOf lowerRow 2

/-- The trip texts of these events differ, their UUIDs do not: each row has the key of the other,
and the tables show which was written last. -/
theorem store_shares_row :
    (∀ row ∈ [lowerRow, upperRow], Accepted row) ∧
      (∀ row ∈ [lowerRow, upperRow], ∀ row' ∈ [lowerRow, upperRow],
        row.lookup "trip_id" = row'.lookup "trip_id" → SameEvent row row') ∧
      Executes [lowerRow, upperRow] upperLast ∧ Executes [lowerRow, upperRow] lowerLast ∧
      (store upperLast .tripsById [.uuid 42]).map withoutWriteTime ≠
        (store lowerLast .tripsById [.uuid 42]).map withoutWriteTime := by
  have hlower : (primaryKey .tripsById).map (fieldOf lowerRow) = [.uuid 42] := by
    rw [primaryKey, List.map_singleton, fieldOf, tripOf_lowerRow, PyVal.ofOption_some]
  have hupper : (primaryKey .tripsById).map (fieldOf upperRow) = [.uuid 42] := by
    rw [primaryKey, List.map_singleton, fieldOf, tripOf_upperRow, PyVal.ofOption_some]
  refine ⟨?_, ?_, ?_, ?_, ?_⟩
  · intro row hrow
    rcases List.mem_pair.mp hrow with rfl | rfl
    · exact lowerRow_accepted
    · exact upperRow_accepted
  · apply pair_sameEvent
    intro h
    have htext : tripText = tripUpper := PyVal.str.inj (Option.some.inj h)
    exact absurd htext (by decide)
  · exact lowerRow_accepted.executes_pair upperRow_accepted 1 2
  · refine (upperRow_accepted.executes_pair lowerRow_accepted 1 2).of_mem_iff ?_ fun s => Iff.rfl
    intro row
    rw [List.mem_pair, or_comm]
    exact List.mem_pair.symm
  · have hupperLast := store_append upperRow_accepted (upperRow_accepted.statementsOf_eq 2)
      (statementsOf lowerRow 1) .tripsById
    have hlowerLast := store_append lowerRow_accepted (lowerRow_accepted.statementsOf_eq 2)
      (statementsOf upperRow 1) .tripsById
    rw [hupper] at hupperLast
    rw [hlower] at hlowerLast
    rw [upperLast, lowerLast, hupperLast, hlowerLast]
    intro h
    have hmem : "driver_id" ∈ (columns .tripsById).filter (· ≠ "ingested_at_ms") := by decide
    have hdriver := congrArg (List.lookup "driver_id") (Option.some.inj h)
    rw [lookup_map_self hmem, lookup_map_self hmem] at hdriver
    have htext : "d-2" = "d-1" := PyVal.str.inj (Option.some.inj hdriver)
    exact absurd htext (by decide)

end TripPipeline.Serving
