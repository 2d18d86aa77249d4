import TripPipeline.Flow.Provenance
import TripPipeline.Lib.WriteOnce
import TripPipeline.Serving.Tables

/-!
# The serving tables are write-once

Batches are repeated, drains re-inject what was written, events are written directly that a batch
writes as well, and any of this may be cut short: what a reader of the tables sees is a table into
which rows are only inserted. A row is visible without its write time, and as Cassandra stores it,
numbers as numbers and times as instants (`cell`).

`Lawful` is what this needs of the events that may come from outside: one event for each trip, and
values that both paths bind alike (`Uniform`, which an offset that shifts the hour breaks).

* `StatementOf.fact`: every executed statement writes the row that its event stands for.
* `tables_simulate`: the tables follow a write-once table, a step at a time.
* `tables_writeOnce`: a visible row is the row of an event from outside; no visible row changes or
  vanishes later; a written event has exactly one row in every table.
-/

namespace TripPipeline.Flow

open Relation
open TripPipeline.Common TripPipeline.Lib
open TripPipeline.Streaming TripPipeline.Replay TripPipeline.Serving

/-! ## What is sent to a table -/

/-- A value as a column stores it. -/
def cell : PyVal → PyVal
  | .bool b => .float (if b then 1 else 0)
  | .int n => .float n
  | .datetime t => .datetime ⟨t.instant, some 0⟩
  | v => v

/-- A statement as its table receives it. -/
def sent (st : Statement) : Statement := ⟨st.key, st.params.map cell⟩

/-- A number is stored as a double. -/
theorem cell_of_number {v : PyVal} {x : ℚ} (h : number v = some x) : cell v = .float x := by
  cases v <;> simp_all [number, cell]

/-- Equal parameters are stored alike. -/
theorem cell_eq_of_same {v w : PyVal} (h : Same v w) : cell v = cell w := by
  have hother : (v = w ∨ ∃ x, number v = some x ∧ number w = some x) → cell v = cell w := by
    rintro (rfl | ⟨x, hv, hw⟩)
    · rfl
    · rw [cell_of_number hv, cell_of_number hw]
  unfold Same at h
  split at h
  · rw [cell, cell, h.2]
  · exact hother h

/-- Two statements that say the same are sent as the same. -/
theorem sent_eq_of_same {st st' : Statement} (h : SameStatement st st') : sent st = sent st' := by
  obtain ⟨hkey, hparams⟩ := h
  have hcells : st.params.map cell = st'.params.map cell := by
    rw [← List.forall₂_eq_eq_eq, List.forall₂_map_left_iff, List.forall₂_map_right_iff]
    exact hparams.imp fun _ _ => cell_eq_of_same
  rw [sent, sent, hkey, hcells]

/-- The cells of a row. -/
def cells (row : Dict) : Dict := row.map fun kv => (kv.1, cell kv.2)

/-- A cell of the stored row is the stored value of the column. -/
theorem get_cells (row : Dict) (c : String) : Dict.get (cells row) c = cell (Dict.get row c) := by
  induction row with
  | nil => rfl
  | cons kv row ih =>
      rw [cells, List.map_cons, Dict.get, Dict.get, Dict.lookup_cons_ite, Dict.lookup_cons_ite]
      by_cases hc : c = kv.1
      · rw [if_pos hc, if_pos hc]
        rfl
      · rw [if_neg hc, if_neg hc]
        exact ih

/-- The row a sent statement stores holds the cells of the values it binds. -/
theorem storedRow_sent (st : Statement) : storedRow (sent st) = cells (storedRow st) :=
  List.zip_map_right

/-- The key of a sent statement holds the cells of the key it binds. -/
theorem keyOf_sent (st : Statement) : keyOf (sent st) = (keyOf st).map cell := by
  rw [keyOf, keyOf, storedRow_sent, List.map_map]
  exact List.map_congr_left fun c _ => get_cells _ c

/-- Leaving out the write time and storing the values can change places. -/
theorem withoutWriteTime_cells (row : Dict) :
    withoutWriteTime (cells row) = cells (withoutWriteTime row) := by
  rw [withoutWriteTime, cells, List.filter_map]
  rfl

/-! ## The row of an event -/

section facts

variable (d : Deployment)

/-- The row of the stream for a text, but for its coordinates. -/
def eventRow (text : String) : Dict := (source d.spark ⟨some text, "", 0, 0, 0⟩).asDict

/-- The key of an event in a table. -/
def factKey (text : String) (t : Table) : List PyVal :=
  (primaryKey t).map fun c => cell (fieldOf (eventRow d text) c)

/-- The row of an event in a table. -/
def factRow (text : String) (t : Table) : Dict :=
  ((columns t).filter (· ≠ "ingested_at_ms")).map fun c => (c, cell (fieldOf (eventRow d text) c))

/-- The rows of the events of a set of texts. -/
def Facts (U : Set String) (k : Table × List PyVal) (row : Dict) : Prop :=
  ∃ text ∈ U, Buildable (eventRow d text) ∧ k.2 = factKey d text k.1 ∧ row = factRow d text k.1

/-- What is assumed of the events that may come from outside. -/
structure Lawful (U : Set String) : Prop where
  documented : Documented d.spark d.codec d.fromIsoFormat
  empty : d.spark.fromJson "" = none
  tables : d.conf.sink.tables = allTables
  uniform : ∀ text ∈ U, ∀ kvs dt, Readable d.codec d.fromIsoFormat text kvs dt → Uniform kvs dt
  /-- One event for each trip. -/
  oneEvent : ∀ text ∈ U, ∀ text' ∈ U, ∀ u, tripOf (eventRow d text) = some u →
    tripOf (eventRow d text') = some u → SameEvent (eventRow d text) (eventRow d text')

end facts

variable {d : Deployment} {U V : Set String} {s s' : PipelineState}

/-- Fewer texts are lawful too. -/
theorem Lawful.mono (h : Lawful d U) (hsub : V ⊆ U) : Lawful d V where
  documented := h.documented
  empty := h.empty
  tables := h.tables
  uniform := fun text htext => h.uniform text (hsub htext)
  oneEvent := fun text htext text' htext' => h.oneEvent text (hsub htext) text' (hsub htext')

/-- The row of a message is that of its text. -/
theorem sameEvent_eventRow {m : KafkaMessage} {text : String} (hm : m.value = some text) :
    SameEvent (source d.spark m).asDict (eventRow d text) := by
  apply sameEvent_asDict
  simp only [source, hm]

/-- Two rows of one event have the same cell in every column but the write time. -/
theorem cell_fieldOf_eq {row row' : Dict} (h : SameEvent row row') {t : Table} {c : String}
    (hc : c ∈ columns t) (hne : c ≠ "ingested_at_ms") :
    cell (fieldOf row c) = cell (fieldOf row' c) := by
  rw [h.fieldOf_eq hc hne]

/-- Events that are the same are buildable alike. -/
theorem buildable_of_sameEvent {row row' : Dict} (h : SameEvent row row') (hrow : Buildable row) :
    Buildable row' := by
  have hfield : ∀ f ∈ Serving.eventFields, row.lookup f = row'.lookup f := h
  have hget : ∀ f ∈ Serving.eventFields, Dict.get row f = Dict.get row' f := by
    intro f hf
    rw [Dict.get, Dict.get, hfield f hf]
  refine ⟨⟨?_, ?_, ?_⟩, ?_, ?_, ?_, ?_⟩
  · intro field hmem
    have hevent : field ∈ Serving.eventFields := by
      revert field
      decide
    rw [← hget field hevent]
    exact hrow.valid.required field hmem
  · rw [← hget "fare_amount" (by decide)]
    exact hrow.valid.fare
  · rw [← hget "produced_at_ms" (by decide)]
    exact hrow.valid.produced
  · obtain ⟨text, n, hlookup, hn⟩ := hrow.trip
    exact ⟨text, n, (hfield "trip_id" (by decide)) ▸ hlookup, hn⟩
  · obtain ⟨text, n, hlookup, hn⟩ := hrow.event
    exact ⟨text, n, (hfield "event_id" (by decide)) ▸ hlookup, hn⟩
  · obtain ⟨t, ht⟩ := hrow.time
    exact ⟨t, (hfield "event_time" (by decide)) ▸ ht⟩
  · intro field hmem
    have hevent : field ∈ Serving.eventFields :=
      List.mem_cons_of_mem _ (List.mem_cons_of_mem _ (List.mem_cons_of_mem _ hmem))
    rw [← hfield field hevent]
    exact hrow.present field hmem

/-! ## Statements write facts -/

/-- The write of a statement, under its table and key. -/
def writeOf (st : Statement) : (Table × List PyVal) × Dict :=
  ((st.key, keyOf (sent st)), storedRow (sent st))

/-- The write is the row of an event. -/
def StatesFact (d : Deployment) (U : Set String) (st : Statement) : Prop :=
  Facts d U (writeOf st).1 (withoutWriteTime (writeOf st).2)

/-- **A statement of the stream job writes the row of its event.** -/
theorem statesFact_of_builds {m : KafkaMessage} {text : String} (hm : m.value = some text)
    (htext : text ∈ U) {st : Statement} (h : Builds (source d.spark m).asDict st) :
    StatesFact d U st := by
  obtain ⟨ingestedAtMs, out, hout, hst⟩ := h
  have hbuildable := (buildStatements_allTables_iff _ ingestedAtMs).mp ⟨out, hout⟩
  have hacc := accepted_asDict hbuildable
  have hbuilds : Builds (source d.spark m).asDict st := ⟨ingestedAtMs, out, hout, hst⟩
  have hsame := sameEvent_eventRow (d := d) hm
  refine ⟨text, htext, buildable_of_sameEvent hsame hbuildable, ?_, ?_⟩
  · show keyOf (sent st) = factKey d text st.key
    rw [keyOf_sent, hbuilds.keyOf_eq hacc, List.map_map, factKey]
    apply List.map_congr_left
    intro c hc
    obtain ⟨hcolumn, hne⟩ := mem_columns_of_mem_primaryKey hc
    exact cell_fieldOf_eq hsame hcolumn hne
  · show withoutWriteTime (storedRow (sent st)) = factRow d text st.key
    rw [storedRow_sent, withoutWriteTime_cells, hbuilds.withoutWriteTime_eq hacc, cells,
      List.map_map, factRow]
    apply List.map_congr_left
    intro c hc
    obtain ⟨hcolumn, hne⟩ := List.mem_filter.mp hc
    exact congrArg (Prod.mk c) (cell_fieldOf_eq hsame hcolumn (by simpa using hne))

/-- **A direct write is the write of the stream job.** -/
theorem exists_streamed_of_direct (hlawful : Lawful d U) {text : String} (htext : text ∈ U)
    (hlate : LateText d text) {now : ℤ} {out : List Statement} {st : Statement}
    (hout : directStatements d.codec d.fromIsoFormat now (.str text) = .ok out) (hst : st ∈ out) :
    ∃ m st₀, m.value = some text ∧ Builds (source d.spark m).asDict st₀ ∧ sent st₀ = sent st := by
  obtain ⟨m, hm, hparse, us, hus⟩ := hlate.late
  obtain ⟨kvs, dt, hread, hbuilt⟩ := directStatements_ok_iff.mp hout
  obtain ⟨e, hjson⟩ : ∃ e, d.spark.fromJson text = some e := by
    rcases hjson : d.spark.fromJson text with _ | e
    · simp [source, hm, hjson] at hparse
    · exact ⟨e, rfl⟩
  have htime : e.eventTime.bind d.spark.toTimestamp = some us := by
    simpa [source, hm, hjson] using hus
  have hr := source_event hm hjson htime
  have hclock := instant_of_readable hlawful.documented hjson htime hread
  have huniform := hlawful.uniform text htext kvs dt hread
  have hbuildable := buildable_asDict hlawful.documented hread hjson hr
    ((buildStatements_allTables_iff _ now).mp ⟨out, hbuilt⟩) huniform.fits
  obtain ⟨out₀, hout₀⟩ := (buildStatements_allTables_iff _ now).mpr hbuildable
  have hsame := (sameStatements_iff hlawful.documented hread hjson hr hclock hout₀ hbuilt).mpr
    huniform
  obtain ⟨st₀, hst₀, hone⟩ := exists_of_mem_right hsame hst
  exact ⟨m, st₀, hm, ⟨now, out₀, hout₀, hst₀⟩, sent_eq_of_same hone⟩

/-- **Every executed statement writes the row of its event**, on either path. -/
theorem StatementOf.fact (hlawful : Lawful d U) {text : String} (htext : text ∈ U) {st : Statement}
    (h : StatementOf d text st) : StatesFact d U st := by
  cases h with
  | streamed hm hbuilt =>
      rw [hlawful.tables] at hbuilt
      exact statesFact_of_builds hm htext hbuilt
  | direct hlate hout hst =>
      obtain ⟨m, st₀, hm, hbuilds, hsent⟩ := exists_streamed_of_direct hlawful htext hlate hout hst
      have hfact := statesFact_of_builds hm htext hbuilds
      have hkey : (sent st₀).key = (sent st).key := congrArg Statement.key hsent
      change st₀.key = st.key at hkey
      unfold StatesFact writeOf at hfact ⊢
      rwa [hsent, hkey] at hfact

/-- Rows of events with one trip are one row. -/
theorem facts_of_trip (hlawful : Lawful d U) {text text' : String} (htext : text ∈ U)
    (htext' : text' ∈ U) {u : ℕ} (hu : tripOf (eventRow d text) = some u)
    (hu' : tripOf (eventRow d text') = some u) (t : Table) :
    factKey d text t = factKey d text' t ∧ factRow d text t = factRow d text' t := by
  have hsame := hlawful.oneEvent text htext text' htext' u hu hu'
  constructor
  · apply List.map_congr_left
    intro c hc
    obtain ⟨hcolumn, hne⟩ := mem_columns_of_mem_primaryKey hc
    exact cell_fieldOf_eq hsame hcolumn hne
  · apply List.map_congr_left
    intro c hc
    obtain ⟨hcolumn, hne⟩ := List.mem_filter.mp hc
    exact congrArg (Prod.mk c) (cell_fieldOf_eq hsame hcolumn (by simpa using hne))

/-- A row that a statement is built from has a trip. -/
theorem exists_tripOf_eventRow {text : String} (h : Buildable (eventRow d text)) :
    ∃ u, tripOf (eventRow d text) = some u :=
  (accepted_asDict h).exists_tripOf

/-- Events with one key in a table are of one trip. -/
theorem trip_of_factKey {text text' : String} (h : Buildable (eventRow d text))
    (h' : Buildable (eventRow d text')) {t : Table}
    (hkey : factKey d text t = factKey d text' t) :
    tripOf (eventRow d text) = tripOf (eventRow d text') := by
  unfold factKey at hkey
  rw [List.map_inj_left] at hkey
  have htrip := hkey "trip_id" (trip_mem_primaryKey t)
  obtain ⟨u, hu⟩ := exists_tripOf_eventRow h
  obtain ⟨u', hu'⟩ := exists_tripOf_eventRow h'
  rw [fieldOf, fieldOf, hu, hu', PyVal.ofOption_some, PyVal.ofOption_some] at htrip
  have huuid : PyVal.uuid u = .uuid u' := htrip
  rw [hu, hu', PyVal.uuid.inj huuid]

/-- The facts of lawful texts are a function of the key. -/
theorem facts_functional (hlawful : Lawful d U) {k : Table × List PyVal} {row row' : Dict}
    (h : Facts d U k row) (h' : Facts d U k row') : row = row' := by
  obtain ⟨text, htext, hbuild, hkey, rfl⟩ := h
  obtain ⟨text', htext', hbuild', hkey', rfl⟩ := h'
  obtain ⟨u, hu⟩ := exists_tripOf_eventRow hbuild
  have hu' := (trip_of_factKey hbuild hbuild' (hkey.symm.trans hkey')).symm.trans hu
  exact (facts_of_trip hlawful htext htext' hu hu' k.1).2

/-! ## The tables -/

/-- The tables as a reader sees them: each row without its write time. -/
noncomputable def visible (s : PipelineState) (k : Table × List PyVal) : Option Dict :=
  (replay (s.executed.map writeOf) k).map withoutWriteTime

/-- The steps of the pipeline, when only texts of `U` come from outside. -/
def StepIn (d : Deployment) (U : Set String) (s s' : PipelineState) : Prop :=
  Step d s s' ∧ ∀ text ∈ s'.offered, text ∈ U

/-- The states of such a pipeline. -/
abbrev RunsIn (d : Deployment) (U : Set String) (s : PipelineState) : Prop :=
  Reachable (· = .init) (StepIn d U) s

/-- A run on texts of `U` is a run, and all it was offered is in `U`. -/
theorem RunsIn.runs (h : RunsIn d U s) : Runs d s ∧ ∀ text ∈ s.offered, text ∈ U := by
  refine h.invariant (P := fun s => Runs d s ∧ ∀ text ∈ s.offered, text ∈ U) ?_ ?_
  · rintro s rfl
    exact ⟨.of_start rfl, fun text htext => absurd htext List.not_mem_nil⟩
  · rintro s s' - ⟨hruns, -⟩ ⟨hstep, hU⟩
    exact ⟨hruns.tail hstep, hU⟩

/-- Every statement executed writes the row of an event. -/
theorem executed_statesFact (hlawful : Lawful d U) (h : RunsIn d U s) :
    ∀ st ∈ s.executed, StatesFact d U st := by
  intro st hst
  obtain ⟨hruns, hU⟩ := h.runs
  obtain ⟨text, htext, horigin⟩ := (runs_traced hlawful.empty hruns).executed st hst
  exact horigin.fact hlawful (hU text htext)

/-- Writes of facts show one row under one key. -/
theorem consistent_writes (hlawful : Lawful d U) {log : List Statement}
    (hlog : ∀ st ∈ log, StatesFact d U st) : Consistent withoutWriteTime (log.map writeOf) := by
  intro w hw w' hw' hkey
  obtain ⟨st, hst, rfl⟩ := List.mem_map.mp hw
  obtain ⟨st', hst', rfl⟩ := List.mem_map.mp hw'
  have hfact' := hlog st' hst'
  unfold StatesFact at hfact'
  rw [← hkey] at hfact'
  exact facts_functional hlawful (hlog st hst) hfact'

/-- **The tables follow a write-once table**, a step at a time. -/
theorem tables_simulate (hlawful : Lawful d U) :
    Simulation (· = .init) (StepIn d U) (· = fun _ => none) (Insert (Facts d U))
      fun s table => table = visible s where
  starts := by
    rintro s rfl
    exact ⟨visible .init, rfl, rfl⟩
  follows := by
    rintro s s' table hreach rfl hstep
    refine ⟨visible s', ?_, rfl⟩
    obtain ⟨new, hnew⟩ := hstep.1.grows.executed
    have hfacts := executed_statesFact hlawful (hreach.tail hstep)
    unfold visible
    rw [← hnew, List.map_append]
    refine replay_append_inserts ?_ ?_
    · rw [← List.map_append, hnew]
      exact consistent_writes hlawful hfacts
    · intro w hw
      obtain ⟨st, hst, rfl⟩ := List.mem_map.mp hw
      exact hfacts st (hnew ▸ List.mem_append_right _ hst)

/-- **An executed statement shows the row of its event.** -/
theorem visible_of_statementOf (hlawful : Lawful d U) (h : RunsIn d U s) {text : String}
    (htext : text ∈ U) {st : Statement} (horigin : StatementOf d text st) (hst : st ∈ s.executed) :
    visible s (st.key, factKey d text st.key) = some (factRow d text st.key) := by
  have hone : Lawful d {text} := hlawful.mono (Set.singleton_subset_iff.mpr htext)
  obtain ⟨text', htext', -, hkey, hrow⟩ := horigin.fact hone (Set.mem_singleton text)
  obtain rfl : text' = text := htext'
  have hconsistent := consistent_writes hlawful (executed_statesFact hlawful h)
  have hreplay := map_view_replay hconsistent (List.mem_map_of_mem (f := writeOf) hst)
  have hwrite : (writeOf st).1 = (st.key, factKey d text' st.key) := Prod.ext rfl hkey
  rw [hwrite] at hreplay
  rw [visible, hreplay, hrow]
  rfl

/-- A written event has its row in every table. -/
theorem visible_of_written (hlawful : Lawful d U) (h : RunsIn d U s) {m : KafkaMessage}
    {text : String} (hm : m.value = some text) (htext : text ∈ U)
    (hwritten : Written allTables s.executed (source d.spark m)) (t : Table) :
    visible s (t, factKey d text t) = some (factRow d text t) := by
  obtain ⟨ingestedAtMs, stmts, hstmts, hall⟩ := hwritten
  obtain ⟨st, hst, rfl, -⟩ := exists_filter_key hstmts t
  refine visible_of_statementOf hlawful h htext (.streamed hm ?_) (hall st hst)
  rw [hlawful.tables]
  exact ⟨ingestedAtMs, stmts, hstmts, hst⟩

/-- A written event is buildable. -/
theorem buildable_of_written {m : KafkaMessage} {text : String} (hm : m.value = some text)
    {executed : List Statement} (h : Written allTables executed (source d.spark m)) :
    Buildable (eventRow d text) := by
  obtain ⟨ingestedAtMs, stmts, hstmts, -⟩ := h
  exact buildable_of_sameEvent (sameEvent_eventRow hm)
    ((buildStatements_allTables_iff _ ingestedAtMs).mp ⟨stmts, hstmts⟩)

/-- The row of an event names its trip. -/
theorem trip_of_factRow {text : String} {u : ℕ} (hu : tripOf (eventRow d text) = some u)
    (t : Table) : Dict.get (factRow d text t) "trip_id" = .uuid u := by
  obtain ⟨hcolumn, hne⟩ := mem_columns_of_mem_primaryKey (trip_mem_primaryKey t)
  have hmem : "trip_id" ∈ (columns t).filter (· ≠ "ingested_at_ms") :=
    List.mem_filter.mpr ⟨hcolumn, by simp⟩
  rw [Dict.get, factRow, lookup_map_self hmem, fieldOf, hu]
  rfl

/-- Every visible row states a fact. -/
theorem facts_of_visible (hlawful : Lawful d U) (h : RunsIn d U s) {k : Table × List PyVal}
    {row : Dict} (hk : visible s k = some row) : Facts d U k row := by
  obtain ⟨table, ⟨table₀, rfl, hrun⟩, rfl⟩ := (tables_simulate hlawful).reachable h
  exact fact_of_inserts hrun (fun k v hnone => by cases hnone) hk

/-- **The serving tables are write-once**: a visible row is that of an event from outside; it stays
as it is whatever happens next; and an event that is written has one row in every table. -/
theorem tables_writeOnce (hlawful : Lawful d U) (h : RunsIn d U s) :
    (∀ k row, visible s k = some row → Facts d U k row) ∧
      (∀ s', ReflTransGen (StepIn d U) s s' →
        ∀ k row, visible s k = some row → visible s' k = some row) ∧
      ∀ m text, m.value = some text → text ∈ U →
        Written allTables s.executed (source d.spark m) →
          ∃ u, tripOf (eventRow d text) = some u ∧ ∀ t, ∃! kr : List PyVal × Dict,
            visible s (t, kr.1) = some kr.2 ∧ Dict.get kr.2 "trip_id" = .uuid u := by
  refine ⟨fun k row hk => facts_of_visible hlawful h hk, ?_, ?_⟩
  · intro s' hrun k row hk
    obtain ⟨table, hinserts, rfl⟩ := (tables_simulate hlawful).run h rfl hrun
    exact keeps_of_inserts hinserts hk
  · intro m text hm htext hwritten
    have hvisible := visible_of_written hlawful h hm htext hwritten
    obtain ⟨u, hu⟩ := exists_tripOf_eventRow (buildable_of_written hm hwritten)
    refine ⟨u, hu, fun t => ⟨(factKey d text t, factRow d text t),
      ⟨hvisible t, trip_of_factRow hu t⟩, ?_⟩⟩
    rintro ⟨k, row⟩ ⟨hk, htrip⟩
    -- a row of this trip states the fact of an event of this trip
    obtain ⟨text', htext', hbuild', hkey, hrow⟩ := facts_of_visible hlawful h hk
    obtain ⟨u', hu'⟩ := exists_tripOf_eventRow hbuild'
    change row = factRow d text' t at hrow
    change Dict.get row "trip_id" = .uuid u at htrip
    rw [hrow, trip_of_factRow hu' t] at htrip
    rw [PyVal.uuid.inj htrip] at hu'
    obtain ⟨hkeys, hrows⟩ := facts_of_trip hlawful htext htext' hu hu' t
    rw [hkeys, hrows]
    exact Prod.ext hkey hrow

/-- Steps that end in a state with texts of `U` only are steps of `StepIn`. -/
theorem runsIn_of_runs (h : Runs d s) (hU : ∀ text ∈ s.offered, text ∈ U) : RunsIn d U s := by
  obtain ⟨s₀, rfl, hrun⟩ := h
  refine ⟨.init, rfl, ?_⟩
  induction hrun with
  | refl => exact .refl
  | tail _ hstep ih =>
      exact (ih fun text htext => hU text (hstep.grows.offered text htext)).tail ⟨hstep, hU⟩

/-- The deployment of one text is lawful. -/
theorem lawful_sample : Lawful sampleDeployment {fullText} where
  documented := documented_full
  empty := by decide
  tables := rfl
  uniform := by
    rintro text - kvs dt ⟨hloads, t, ht, hiso⟩
    simp only [sampleDeployment, sampleCodec, Option.ite_none_right_eq_some] at hloads
    obtain ⟨-, hkvs⟩ := hloads
    obtain rfl := PyVal.dict.inj (Option.some.inj hkvs)
    simp only [sampleDeployment, sampleIso, Option.ite_none_right_eq_some] at hiso
    obtain rfl := Option.some.inj hiso.2
    refine ⟨?_, by decide, by decide⟩
    intro c hc
    simp only [eventSchema, List.mem_cons, List.not_mem_nil, or_false] at hc
    rcases hc with rfl | rfl | rfl | rfl | rfl | rfl | rfl | rfl | rfl | rfl | rfl | rfl | rfl |
      rfl | rfl | rfl | rfl | rfl
    all_goals first
      | exact Or.inl rfl
      | exact Or.inr ⟨_, rfl⟩
      | exact Or.inr ⟨_, rfl, by decide⟩
      | exact Or.inr (Or.inl ⟨_, rfl⟩)
  oneEvent := by
    rintro text htext text' htext' u - -
    rw [Set.mem_singleton_iff.mp htext, Set.mem_singleton_iff.mp htext']
    exact fun f _ => rfl

/-- The general result at a message that was taken by a batch. -/
theorem tables_writeOnce_sample : ∃ s : PipelineState, s.raw = [sampleMessage] ∧
    (∀ k row, visible s k = some row → Facts sampleDeployment {fullText} k row) ∧
      (∀ s', ReflTransGen (StepIn sampleDeployment {fullText}) s s' →
        ∀ k row, visible s k = some row → visible s' k = some row) ∧
      ∀ m text, m.value = some text → text ∈ ({fullText} : Set String) →
        Written allTables s.executed (source sampleDeployment.spark m) →
          ∃ u, tripOf (eventRow sampleDeployment text) = some u ∧
            ∀ t, ∃! kr : List PyVal × Dict,
              visible s (t, kr.1) = some kr.2 ∧ Dict.get kr.2 "trip_id" = .uuid u := by
  obtain ⟨s, hruns, hraw, -, hoffered, -⟩ := exists_run_sampleMessage
  have hwithin : RunsIn sampleDeployment {fullText} s := by
    refine runsIn_of_runs hruns fun text htext => ?_
    rw [hoffered] at htext
    exact List.mem_singleton.mp htext
  exact ⟨s, hraw, tables_writeOnce lawful_sample hwithin⟩

end TripPipeline.Flow
