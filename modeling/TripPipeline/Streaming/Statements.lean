import TripPipeline.Lib.Except
import TripPipeline.Streaming.Source

/-!
# From a row to its INSERT statements

`_validate` and `build_statements` of `streaming/cassandra_sink.py`, on a `dict`: the streaming path
calls them on `spark_row.asDict()`, the drain's direct write on a decoded payload.

Each of the three parameter tuples is a list of parameter expressions (`params`), in the order of
the source, next to the column list of its INSERT (`columns`). `buildStatements_ok_iff` is the
inversion every later proof uses: the call succeeds exactly when the row validates, both UUIDs
parse, `event_time` is a `datetime` and every field a requested tuple reads is present, and then it
gives one statement for each requested table.
-/

namespace TripPipeline.Streaming

open TripPipeline.Common TripPipeline.Lib

/-! ## Tables -/

/-- The prepared statements the sink writes events with. -/
inductive Table where
  | tripsById | tripsByDriverDay | tripsByCityHour
  deriving DecidableEq, Repr

/-- `CORE_TABLES`. -/
def coreTables : List Table := [.tripsById]

/-- `ALL_TABLES`. -/
def allTables : List Table := [.tripsById, .tripsByDriverDay, .tripsByCityHour]

/-- The column list of each INSERT.
Source: `streaming/cassandra_sink.py` `CQL` -/
def columns : Table → List String
  | .tripsById =>
      ["trip_id", "event_id", "event_time", "produced_at_ms", "ingested_at_ms",
       "city_id", "driver_id", "rider_id", "pickup_zone_id", "dropoff_zone_id",
       "vehicle_class", "payment_type", "distance_km", "duration_sec",
       "fare_amount", "surge_multiplier", "status", "producer_id", "schema_version"]
  | .tripsByDriverDay =>
      ["driver_id", "event_date", "event_time", "trip_id", "event_id", "city_id",
       "rider_id", "vehicle_class", "payment_type", "distance_km", "duration_sec",
       "fare_amount", "surge_multiplier", "status", "ingested_at_ms"]
  | .tripsByCityHour =>
      ["city_id", "event_hour", "trip_id", "event_id", "event_time", "driver_id",
       "rider_id", "pickup_zone_id", "dropoff_zone_id", "vehicle_class",
       "payment_type", "distance_km", "duration_sec", "fare_amount",
       "surge_multiplier", "status", "ingested_at_ms"]

/-! ## Validation -/

/-- `PermanentDefect(text)`. -/
def permanentDefect (text : String) : Exc := ⟨"PermanentDefect", text, [.permanentDefect]⟩

/-- The fields that must be neither null nor empty. -/
def requiredFields : List String := ["event_id", "trip_id", "event_time", "city_id", "driver_id"]

/-- One turn of the loop of `_validate`. -/
def checkRequired (row : Dict) (field : String) : Except Exc Unit :=
  if (Dict.get row field).isMissing then
    .error (permanentDefect ("missing required field '" ++ field ++ "'"))
  else .ok ()

/-- Reject records that can never be written.
Source: `streaming/cassandra_sink.py` `_validate` -/
def validate (row : Dict) : Except Exc Unit := do
  requiredFields.forM (checkRequired row)
  if (Dict.get row "fare_amount").isNone then .error (permanentDefect "fare_amount is null")
  if (Dict.get row "produced_at_ms").isNone then
    .error (permanentDefect "produced_at_ms is null")

/-! ## Statements -/

/-- The names `build_statements` binds before it fills the tuples. -/
structure Bindings where
  tripUuid : ℕ
  eventUuid : ℕ
  et : Datetime
  eventDate : ℤ
  eventHour : Datetime
  ingestedAtMs : ℤ

/-- A parameter expression of one of the tuples. -/
inductive Param where
  | tripUuid | eventUuid | et | eventDate | eventHour | ingestedAtMs
  /-- `row[field]`. -/
  | row (field : String)
  deriving DecidableEq

/-- The value of a parameter expression. -/
def Param.eval (b : Bindings) (row : Dict) : Param → Except Exc PyVal
  | .tripUuid => .ok (.uuid b.tripUuid)
  | .eventUuid => .ok (.uuid b.eventUuid)
  | .et => .ok (.datetime b.et)
  | .eventDate => .ok (.date b.eventDate)
  | .eventHour => .ok (.datetime b.eventHour)
  | .ingestedAtMs => .ok (.int b.ingestedAtMs)
  | .row field => Dict.item row field

/-- The parameter tuples, in the order of the source.
Source: `streaming/cassandra_sink.py` `build_statements` -/
def params : Table → List Param
  | .tripsById =>
      [.tripUuid, .eventUuid, .et, .row "produced_at_ms", .ingestedAtMs,
       .row "city_id", .row "driver_id", .row "rider_id",
       .row "pickup_zone_id", .row "dropoff_zone_id", .row "vehicle_class",
       .row "payment_type", .row "distance_km", .row "duration_sec",
       .row "fare_amount", .row "surge_multiplier", .row "status",
       .row "producer_id", .row "schema_version"]
  | .tripsByDriverDay =>
      [.row "driver_id", .eventDate, .et, .tripUuid, .eventUuid,
       .row "city_id", .row "rider_id", .row "vehicle_class",
       .row "payment_type", .row "distance_km", .row "duration_sec",
       .row "fare_amount", .row "surge_multiplier", .row "status",
       .ingestedAtMs]
  | .tripsByCityHour =>
      [.row "city_id", .eventHour, .tripUuid, .eventUuid, .et,
       .row "driver_id", .row "rider_id", .row "pickup_zone_id",
       .row "dropoff_zone_id", .row "vehicle_class", .row "payment_type",
       .row "distance_km", .row "duration_sec", .row "fare_amount",
       .row "surge_multiplier", .row "status", .ingestedAtMs]

/-- `(prepared_key, params)`. -/
structure Statement where
  key : Table
  params : List PyVal

/-- `row["event_time"]`, used as a `datetime`: any other value has no `tzinfo`. -/
def asDatetime : PyVal → Except Exc Datetime
  | .datetime d => .ok d
  | _ => .error ⟨"AttributeError", "object has no attribute 'tzinfo'", [.attributeError]⟩

/-- The bindings of a row. -/
def bindings (row : Dict) (ingestedAtMs : ℤ) : Except Exc Bindings := do
  let tripUuid ← uuidUUID (← Dict.item row "trip_id")
  let eventUuid ← uuidUUID (← Dict.item row "event_id")
  let et ← asDatetime (← Dict.item row "event_time")
  let et := et.orUtc
  .ok ⟨tripUuid, eventUuid, et, et.date, et.hour, ingestedAtMs⟩

/-- The statement for one table. -/
def statement (b : Bindings) (row : Dict) (t : Table) : Except Exc Statement := do
  .ok ⟨t, ← (params t).mapM (Param.eval b row)⟩

/-- `[(prepared_key, params), ...]` for one event.
Source: `streaming/cassandra_sink.py` `build_statements` -/
def buildStatements (row : Dict) (tables : List Table) (ingestedAtMs : ℤ) :
    Except Exc (List Statement) := do
  validate row
  let b ← bindings row ingestedAtMs
  (allTables.filter (· ∈ tables)).mapM (statement b row)

/-! ## Inversion -/

/-- What `_validate` checks. -/
structure Validated (row : Dict) : Prop where
  required : ∀ field ∈ requiredFields, (Dict.get row field).isMissing = false
  fare : (Dict.get row "fare_amount").isNone = false
  produced : (Dict.get row "produced_at_ms").isNone = false

/-- A row is valid when no required field is missing. -/
theorem validate_ok_iff (row : Dict) : validate row = .ok () ↔ Validated row := by
  have hcheck : ∀ field, checkRequired row field = .ok () ↔
      (Dict.get row field).isMissing = false := by
    intro field
    unfold checkRequired
    cases (Dict.get row field).isMissing <;> simp
  unfold validate
  simp only [bind_unit_eq_ok_iff, forM_eq_ok_iff, hcheck]
  constructor
  · rintro ⟨hreq, h⟩
    cases hf : (Dict.get row "fare_amount").isNone
    · cases hp : (Dict.get row "produced_at_ms").isNone
      · exact ⟨hreq, hf, hp⟩
      · simp [hf, hp] at h
    · simp [hf, bind_unit_eq_ok_iff] at h
  · rintro ⟨hreq, hf, hp⟩
    refine ⟨hreq, ?_⟩
    simp [hf, hp, pure, Except.pure]

/-- The bindings of a row, when its ids are UUIDs and its time is a datetime. -/
theorem bindings_ok_iff (row : Dict) (ingestedAtMs : ℤ) (b : Bindings) :
    bindings row ingestedAtMs = .ok b ↔
      ∃ trip event et, (Dict.item row "trip_id" >>= uuidUUID) = .ok trip ∧
        (Dict.item row "event_id" >>= uuidUUID) = .ok event ∧
        (Dict.item row "event_time" >>= asDatetime) = .ok et ∧
        b = ⟨trip, event, et.orUtc, et.orUtc.date, et.orUtc.hour, ingestedAtMs⟩ := by
  unfold bindings
  simp only [bind_eq_ok_iff, Except.ok.injEq]
  constructor
  · rintro ⟨t, ht, trip, htrip, e, he, event, hevent, d, hd, et, het, rfl⟩
    exact ⟨trip, event, et, ⟨t, ht, htrip⟩, ⟨e, he, hevent⟩, ⟨d, hd, het⟩, rfl⟩
  · rintro ⟨trip, event, et, ⟨t, ht, htrip⟩, ⟨e, he, hevent⟩, ⟨d, hd, het⟩, rfl⟩
    exact ⟨t, ht, trip, htrip, e, he, event, hevent, d, hd, et, het, rfl⟩

/-- A statement is built when each of its parameters has a value. -/
theorem statement_ok_iff (b : Bindings) (row : Dict) (t : Table) (s : Statement) :
    statement b row t = .ok s ↔ s.key = t ∧ (params t).mapM (Param.eval b row) = .ok s.params := by
  unfold statement
  rw [bind_eq_ok_iff]
  simp only [Except.ok.injEq]
  constructor
  · rintro ⟨ps, hps, rfl⟩
    exact ⟨rfl, hps⟩
  · rintro ⟨rfl, hps⟩
    exact ⟨s.params, hps, rfl⟩

/-- **Inversion of `build_statements`**: the row validates, its bindings exist, and there is one
statement for each requested table. -/
theorem buildStatements_ok_iff (row : Dict) (tables : List Table) (ingestedAtMs : ℤ)
    (out : List Statement) :
    buildStatements row tables ingestedAtMs = .ok out ↔
      Validated row ∧ ∃ b, bindings row ingestedAtMs = .ok b ∧
        List.Forall₂ (fun t s => statement b row t = .ok s)
          (allTables.filter (· ∈ tables)) out := by
  unfold buildStatements
  simp only [bind_unit_eq_ok_iff, validate_ok_iff]
  rw [bind_eq_ok_iff]
  simp only [mapM_eq_ok_iff]

/-- The statements of an event are those of the requested tables, in the order of `ALL_TABLES`. -/
theorem buildStatements_keys {row : Dict} {tables : List Table} {ingestedAtMs : ℤ}
    {out : List Statement} (h : buildStatements row tables ingestedAtMs = .ok out) :
    out.map Statement.key = allTables.filter (· ∈ tables) := by
  obtain ⟨_, b, _, hall⟩ := (buildStatements_ok_iff row tables ingestedAtMs out).mp h
  generalize allTables.filter (· ∈ tables) = ts at hall ⊢
  clear h
  induction hall with
  | nil => rfl
  | cons hs _ ih => rw [List.map_cons, ih, ((statement_ok_iff _ _ _ _).mp hs).1]

/-! ## The write time -/

/-- The value of a parameter, unless it is the write time. -/
def Param.blank (p : Param) (v : PyVal) : PyVal := if p = .ingestedAtMs then .none else v

/-- The statement without its write time. -/
def Statement.timeless (s : Statement) : Statement :=
  ⟨s.key, List.zipWith Param.blank (Streaming.params s.key) s.params⟩

/-- Leaving out the write time leaves the table. -/
@[simp] theorem timeless_key (s : Statement) : s.timeless.key = s.key := rfl

/-- Blanking twice is blanking once. -/
theorem zipWith_blank_blank (ps : List Param) (vs : List PyVal) :
    List.zipWith Param.blank ps (List.zipWith Param.blank ps vs) =
      List.zipWith Param.blank ps vs := by
  induction ps generalizing vs with
  | nil => rfl
  | cons p ps ih =>
      rcases vs with _ | ⟨v, vs⟩
      · rfl
      · have hblank : p.blank (p.blank v) = p.blank v := by
          unfold Param.blank
          split_ifs <;> rfl
        rw [List.zipWith_cons_cons, List.zipWith_cons_cons, ih, hblank]

/-- Leaving out the write time twice is leaving it out once. -/
@[simp] theorem timeless_timeless (s : Statement) : s.timeless.timeless = s.timeless :=
  congrArg (Statement.mk s.key) (zipWith_blank_blank (params s.key) s.params)

/-- Bindings at two times differ in the write time only. -/
theorem bindings_time (row : Dict) (i j : ℤ) :
    bindings row i = (bindings row j).map fun b => { b with ingestedAtMs := i } := by
  unfold bindings
  rcases Dict.item row "trip_id" with _ | t
  · rfl
  rcases ht : uuidUUID t with _ | trip
  · simp [bind, Except.bind, ht, Except.map]
  rcases Dict.item row "event_id" with _ | e
  · simp [bind, Except.bind, ht, Except.map]
  rcases he : uuidUUID e with _ | event
  · simp [bind, Except.bind, ht, he, Except.map]
  rcases Dict.item row "event_time" with _ | d
  · simp [bind, Except.bind, ht, he, Except.map]
  rcases hd : asDatetime d with _ | et <;> simp [bind, Except.bind, ht, he, hd, Except.map]

/-- Without its write time, the statement for a table does not depend on it. -/
theorem statement_time (b : Bindings) (row : Dict) (t : Table) (i : ℤ) :
    (statement { b with ingestedAtMs := i } row t).map Statement.timeless =
      (statement b row t).map Statement.timeless := by
  have hstmt : ∀ b : Bindings, (statement b row t).map Statement.timeless =
      ((params t).mapM fun p : Param => (p.eval b row).map p.blank).map (Statement.mk t) := by
    intro b
    rw [← mapM_map_zipWith, statement]
    cases (params t).mapM (Param.eval b row) <;> rfl
  have heval : ∀ p : Param, (p.eval { b with ingestedAtMs := i } row).map p.blank =
      (p.eval b row).map p.blank := by
    intro p
    cases p <;> rfl
  rw [hstmt, hstmt]
  simp only [heval]

/-- The write time enters no decision: with another `ingested_at_ms` the call fails alike, or gives
the same statements but for the write time. -/
theorem buildStatements_timeless (row : Dict) (tables : List Table) (i j : ℤ) :
    (buildStatements row tables i).map (List.map Statement.timeless) =
      (buildStatements row tables j).map (List.map Statement.timeless) := by
  unfold buildStatements
  rcases validate row with _ | u
  · rfl
  simp only [bind, Except.bind, bindings_time row i j]
  rcases bindings row j with _ | b
  · rfl
  exact mapM_map_congr Statement.timeless fun t _ => statement_time b row t i

/-- The statements are for the same tables. -/
theorem buildStatements_time (row : Dict) (tables : List Table) (i j : ℤ) :
    (buildStatements row tables i).map (List.map Statement.key) =
      (buildStatements row tables j).map (List.map Statement.key) := by
  have hkeys : ∀ x : Except Exc (List Statement), x.map (List.map Statement.key) =
      (x.map (List.map Statement.timeless)).map (List.map Statement.key) := by
    intro x
    cases x with
    | error e => rfl
    | ok stmts => simp [Except.map, Function.comp_def]
  rw [hkeys, buildStatements_timeless row tables i j, ← hkeys]

/-! ## Which rows have statements for all tables -/

/-- The fields the tuples read. -/
def rowFields : List String :=
  ["produced_at_ms", "city_id", "driver_id", "rider_id", "pickup_zone_id", "dropoff_zone_id",
   "vehicle_class", "payment_type", "distance_km", "duration_sec", "fare_amount",
   "surge_multiplier", "status", "producer_id", "schema_version"]

/-- The field is the text of a UUID. -/
def IsUuid (row : Dict) (field : String) : Prop :=
  ∃ text n, row.lookup field = some (.str text) ∧ uuidOfText text = some n

/-- The row validates, has two UUIDs and a `datetime`, and lacks none of the fields. -/
structure Buildable (row : Dict) : Prop where
  valid : Validated row
  trip : IsUuid row "trip_id"
  event : IsUuid row "event_id"
  time : ∃ d, row.lookup "event_time" = some (.datetime d)
  present : ∀ field ∈ rowFields, ∃ v, row.lookup field = some v

/-- A field is read when it is there. -/
theorem item_ok_iff {row : Dict} {field : String} {v : PyVal} :
    Dict.item row field = .ok v ↔ row.lookup field = some v := by
  unfold Dict.item
  cases row.lookup field <;> simp

/-- A UUID is read from a text that spells one. -/
theorem uuidUUID_ok_iff {v : PyVal} {n : ℕ} :
    uuidUUID v = .ok n ↔ ∃ text, v = .str text ∧ uuidOfText text = some n := by
  cases v with
  | str text =>
      rw [uuidUUID]
      cases h : uuidOfText text <;> simp [h]
  | _ => simp [uuidUUID]

/-- A datetime is read as it is. -/
theorem asDatetime_ok_iff {v : PyVal} {d : Datetime} : asDatetime v = .ok d ↔ v = .datetime d := by
  cases v <;> simp [asDatetime]

/-- A field is a UUID when it casts to one. -/
theorem isUuid_iff {row : Dict} {field : String} :
    IsUuid row field ↔ ∃ n, (Dict.item row field >>= uuidUUID) = .ok n := by
  simp only [bind_eq_ok_iff, item_ok_iff, uuidUUID_ok_iff]
  constructor
  · rintro ⟨text, n, hlookup, hn⟩
    exact ⟨n, _, hlookup, text, rfl, hn⟩
  · rintro ⟨n, v, hlookup, text, rfl, hn⟩
    exact ⟨text, n, hlookup, hn⟩

/-- Every field a tuple reads is in `rowFields`, and every one of these is read. -/
theorem mem_rowFields_iff (field : String) :
    field ∈ rowFields ↔ ∃ t ∈ allTables, Param.row field ∈ params t := by
  constructor
  · intro h
    refine ⟨.tripsById, by decide, ?_⟩
    revert field
    decide
  · rintro ⟨t, -, h⟩
    have hall : ∀ p ∈ params t, ∀ f, p = .row f → f ∈ rowFields := by
      cases t <;> simp [params, rowFields]
    exact hall _ h field rfl

/-- **A row has statements for all tables iff it is buildable.** -/
theorem buildStatements_allTables_iff (row : Dict) (ingestedAtMs : ℤ) :
    (∃ out, buildStatements row allTables ingestedAtMs = .ok out) ↔ Buildable row := by
  have hfilter : allTables.filter (· ∈ allTables) = allTables := by decide
  constructor
  · rintro ⟨out, hout⟩
    obtain ⟨hvalid, b, hb, hall⟩ := (buildStatements_ok_iff _ _ _ _).mp hout
    obtain ⟨trip, event, et, htrip, hevent, het, -⟩ := (bindings_ok_iff _ _ _).mp hb
    obtain ⟨v, hv, htime⟩ := bind_eq_ok_iff.mp het
    obtain rfl := asDatetime_ok_iff.mp htime
    refine ⟨hvalid, isUuid_iff.mpr ⟨trip, htrip⟩, isUuid_iff.mpr ⟨event, hevent⟩,
      ⟨et, item_ok_iff.mp hv⟩, ?_⟩
    intro field hfield
    obtain ⟨t, ht, hmem⟩ := (mem_rowFields_iff field).mp hfield
    rw [hfilter] at hall
    obtain ⟨st, -, hst⟩ := exists_of_mem_left hall ht
    obtain ⟨v, -, hv⟩ := exists_of_mem_left
      (mapM_eq_ok_iff.mp ((statement_ok_iff _ _ _ _).mp hst).2) hmem
    exact ⟨v, item_ok_iff.mp hv⟩
  · rintro ⟨hvalid, htrip, hevent, ⟨et, het⟩, hpresent⟩
    obtain ⟨trip, htrip⟩ := isUuid_iff.mp htrip
    obtain ⟨event, hevent⟩ := isUuid_iff.mp hevent
    have htime : (Dict.item row "event_time" >>= asDatetime) = .ok et :=
      bind_eq_ok_iff.mpr ⟨_, item_ok_iff.mpr het, asDatetime_ok_iff.mpr rfl⟩
    have hb := (bindings_ok_iff row ingestedAtMs _).mpr ⟨trip, event, et, htrip, hevent, htime, rfl⟩
    have heval : ∀ b t, ∀ p ∈ params t, ∃ v, Param.eval b row p = .ok v := by
      intro b t p hp
      cases p with
      | row field =>
          have hfield := (mem_rowFields_iff field).mpr ⟨t, by cases t <;> decide, hp⟩
          obtain ⟨v, hv⟩ := hpresent field hfield
          exact ⟨v, item_ok_iff.mpr hv⟩
      | _ => exact ⟨_, rfl⟩
    have hstmt : ∀ b, ∀ t ∈ allTables, ∃ st, statement b row t = .ok st := by
      intro b t _
      obtain ⟨vs, hvs⟩ := exists_mapM_eq_ok (heval b t)
      exact ⟨⟨t, vs⟩, (statement_ok_iff _ _ _ _).mpr ⟨rfl, hvs⟩⟩
    obtain ⟨out, hout⟩ := exists_mapM_eq_ok (hstmt _)
    refine ⟨out, (buildStatements_ok_iff _ _ _ _).mpr ⟨hvalid, _, hb, ?_⟩⟩
    rw [hfilter]
    exact mapM_eq_ok_iff.mp hout

end TripPipeline.Streaming
