import Mathlib.Data.Set.Card
import TripPipeline.Bench.Reconcile
import TripPipeline.Flow.Schedule
import TripPipeline.Flow.Warehouse

/-!
# The harness's verdict on a run

A scenario ends with a report that counts: messages on `trips.raw`, rows of `trips_by_id`, distinct
ids that `inspect` finds on the DLQ topic. Counts alone cannot say that an event arrived. Here the
report is read over a run of the pipeline, where they can: each count is that of a set of events.

* `publishedCalls`, `writtenCalls`, `quarantinedCalls`: the events a run has put in each place.
  `published_subset`: when nothing is left to be read, an event of the first is in one of the other
  two.
* `rowCount_tripsById`: a row of the table is an event.
* `Tallied`: a run in which the messages beyond one for each event are the duplicates the producer
  has counted. A duplicate that was given up makes another run, and so does an event that a drain
  publishes again.
* `Entry`, `distinct_of_inspect`: what `inspect` counts is events too, and it ends on every topic a
  run leaves behind.
* `Observes`: what the harness must have read. `verdict_of_run`: what its report then says of any
  run, and that it is right about a tallied one.
-/

namespace TripPipeline.Flow

open TripPipeline.Bench (Scenario Readings Reconciliation buildReport dlqDistinctEvents getCount
  topicCount)
open TripPipeline.Common TripPipeline.Lib TripPipeline.Producer
open TripPipeline.Streaming TripPipeline.Replay TripPipeline.Serving
open PipelineState (values)

/-! ## Where the events of calls are -/

/-- The calls whose event stands on `trips.raw`. -/
def publishedCalls (d : Deployment) (calls : Set Call) (s : PipelineState) : Set Call :=
  {c | c ∈ calls ∧ ∃ us, c.eventUs = some us ∧
    ∃ m ∈ s.raw, m.value = some ((c.eventAt us).text d.codec)}

/-- The calls whose event has its row in `trips_by_id`. -/
def writtenCalls (calls : Set Call) (s : PipelineState) : Set Call :=
  {c | c ∈ calls ∧ ∃ us, c.eventUs = some us ∧
    (visible s (.tripsById, generatedKey c us .tripsById)).isSome}

/-- The calls whose event has an entry on the DLQ topic. -/
def quarantinedCalls (d : Deployment) (calls : Set Call) (s : PipelineState) : Set Call :=
  {c | c ∈ calls ∧ ∃ us, c.eventUs = some us ∧ ∃ e, s.OnDlq e ∧
    e.lookup "original_payload" = some (.str ((c.eventAt us).text d.codec))}

/-- `SELECT COUNT(*)` of a table. -/
noncomputable def rowCount (s : PipelineState) (t : Table) : ℕ :=
  {k | (visible s (t, k)).isSome = true}.ncard

variable {d : Deployment} {calls : Set Call} {s : PipelineState} {c : Call} {us : ℤ}

/-- **An event that is published is written or quarantined** when nothing is left to be read. -/
theorem published_subset (hreads : ReadsEvents d calls)
    (hpolicy : d.conf.latePolicy = "dlq" ∨ d.conf.latePolicy = "process")
    (h : RunsIn d (textsOf d calls) s) (hpending : s.pending = []) :
    publishedCalls d calls s ⊆ writtenCalls calls s ∪ quarantinedCalls d calls s := by
  rintro c ⟨hc, us, hus, m, hm, hvalue⟩
  obtain ⟨ev, hev, htime⟩ := parsed_generated hreads hc hus
  rcases settled_or_pending hpolicy h.runs.1 hm with hwait | hwritten | ⟨e, he, henv⟩ | hskip
  · rw [hpending] at hwait
    cases hwait
  · rw [hreads.tables] at hwritten
    have htext : (c.eventAt us).text d.codec ∈ textsOf d calls := ⟨c, hc, us, hus, rfl⟩
    have hvisible := visible_of_written (lawful_generated hreads) h hvalue htext hwritten .tripsById
    rw [(factRow_generated hreads hc hus .tripsById).1] at hvisible
    exact Or.inl ⟨hc, us, hus, by rw [hvisible]; rfl⟩
  · refine Or.inr ⟨hc, us, hus, e, he, henv.payload _ hvalue fun hempty => ?_⟩
    rw [hempty, hreads.empty] at hev
    cases hev
  · have hnone := hskip.2.2
    rw [source_event hvalue hev htime] at hnone
    cases hnone

/-- **A table has one row for each event written.** -/
theorem rowCount_tripsById (hreads : ReadsEvents d calls) (h : RunsIn d (textsOf d calls) s) :
    rowCount s .tripsById = (writtenCalls calls s).ncard := by
  have hkeys : {k | (visible s (.tripsById, k)).isSome = true} =
      (fun c : Call => [PyVal.uuid c.tripId]) '' writtenCalls calls s := by
    ext k
    constructor
    · intro hk
      obtain ⟨row, hrow⟩ := Option.isSome_iff_exists.mp hk
      obtain ⟨c, hc, us, hus, -, rfl, -⟩ := generated_of_visible hreads h hrow
      exact ⟨c, ⟨hc, us, hus, hk⟩, rfl⟩
    · rintro ⟨c, ⟨hc, us, hus, hk⟩, rfl⟩
      exact hk
  rw [rowCount, hkeys]
  refine Set.InjOn.ncard_image fun c hc c' hc' htrip => hreads.trips c hc.1 c' hc'.1 ?_
  exact PyVal.uuid.inj (List.cons.inj htrip).1

/-- Only finitely many calls have a row. -/
theorem finite_writtenCalls (hreads : ReadsEvents d calls) : (writtenCalls calls s).Finite := by
  have hkeys : {k : Table × List PyVal | (visible s k).isSome = true}.Finite := by
    refine (List.finite_toSet ((s.executed.map writeOf).map Prod.fst)).subset fun k hk => ?_
    rw [Set.mem_ofPred_eq, visible, Option.isSome_map, replay_isSome_iff] at hk
    exact hk
  refine Set.Finite.of_finite_image (f := fun c : Call => (Table.tripsById, [PyVal.uuid c.tripId]))
    (hkeys.subset ?_) fun c hc c' hc' htrip => hreads.trips c hc.1 c' hc'.1 ?_
  · rintro _ ⟨c, ⟨hc, us, hus, hk⟩, rfl⟩
    exact hk
  · exact PyVal.uuid.inj (List.cons.inj (Prod.mk.inj htrip).2).1

/-! ## What the producer counts -/

/-- The text of a call is its own. -/
theorem call_of_text (hreads : ReadsEvents d calls) {c' : Call} {us' : ℤ} (hc : c ∈ calls)
    (hus : c.eventUs = some us) (hc' : c' ∈ calls) (hus' : c'.eventUs = some us')
    (htext : (c.eventAt us).text d.codec = (c'.eventAt us').text d.codec) : c = c' := by
  have htrip := trip_eventRow hreads hc hus
  rw [htext, trip_eventRow hreads hc' hus'] at htrip
  exact hreads.trips c hc c' hc' (Option.some.inj htrip).symm

/-- The events published are those of the messages. -/
theorem publishedCalls_congr {s' : PipelineState} (hraw : s'.raw = s.raw) :
    publishedCalls d calls s' = publishedCalls d calls s := by
  unfold publishedCalls
  rw [hraw]

/-- One more message publishes its event. -/
theorem publishedCalls_publish (hreads : ReadsEvents d calls) (hc : c ∈ calls)
    (hus : c.eventUs = some us) {m : KafkaMessage}
    (hvalue : m.value = some ((c.eventAt us).text d.codec)) (texts : List String) :
    publishedCalls d calls ((s.offer texts).publish [m]) =
      insert c (publishedCalls d calls s) := by
  ext c'
  constructor
  · rintro ⟨hc', us', hus', m', hm', hvalue'⟩
    rcases List.mem_append.mp hm' with hold | hnew
    · exact Or.inr ⟨hc', us', hus', m', hold, hvalue'⟩
    · obtain rfl := List.mem_singleton.mp hnew
      exact Or.inl (call_of_text hreads hc' hus' hc hus
        (Option.some.inj (hvalue'.symm.trans hvalue)))
  · rintro (rfl | ⟨hc', us', hus', m', hm', hvalue'⟩)
    · exact ⟨hc, us, hus, m, List.mem_append_right _ (List.mem_singleton_self m), hvalue⟩
    · exact ⟨hc', us', hus', m', List.mem_append_left _ hm', hvalue'⟩

/-- There are no more events on the topic than messages. -/
theorem finite_publishedCalls (hreads : ReadsEvents d calls) :
    (publishedCalls d calls s).Finite := by
  refine Set.Finite.of_finite_image
    (f := fun c : Call => c.eventUs.map fun us => (c.eventAt us).text d.codec)
    ((s.raw.map KafkaMessage.value).finite_toSet.subset ?_) ?_
  · rintro _ ⟨c, ⟨-, us, hus, m, hm, hvalue⟩, rfl⟩
    refine List.mem_map.mpr ⟨m, hm, ?_⟩
    dsimp only
    rw [hus, hvalue]
    rfl
  · rintro c ⟨hc, us, hus, -⟩ c' ⟨hc', us', hus', -⟩ htext
    dsimp only at htext
    rw [hus, hus'] at htext
    exact call_of_text hreads hc hus hc' hus' (Option.some.inj htext)

/-- A step beside the count of the producer: an event is published once, and once more for each
duplicate that is counted. Nothing else publishes to `trips.raw`. -/
inductive TalliedStep (d : Deployment) (calls : Set Call) :
    ℕ × PipelineState → ℕ × PipelineState → Prop
  | event (n s) {c us m} : c ∈ calls → c.eventUs = some us →
      m.value = some ((c.eventAt us).text d.codec) → c ∉ publishedCalls d calls s →
      TalliedStep d calls (n, s) (n, (s.offer m.value.toList).publish [m])
  | duplicate (n s) {c us m} : c ∈ publishedCalls d calls s → c.eventUs = some us →
      m.value = some ((c.eventAt us).text d.codec) →
      TalliedStep d calls (n, s) (n + 1, (s.offer m.value.toList).publish [m])
  | other (n) {s s'} : Step d s s' → s'.raw = s.raw → TalliedStep d calls (n, s) (n, s')

/-- A run whose producer has counted `n` duplicates, all of them on `trips.raw`, and whose drains
have published nothing again. -/
abbrev Tallied (d : Deployment) (calls : Set Call) (n : ℕ) (s : PipelineState) : Prop :=
  Reachable (· = (0, .init)) (TalliedStep d calls) (n, s)

/-- Such a run is a run of the pipeline. -/
theorem runs_of_tallied {n : ℕ} (h : Tallied d calls n s) : Runs d s := by
  refine h.invariant (P := fun w : ℕ × PipelineState => Runs d w.2) ?_ ?_
  · rintro _ rfl
    exact .of_start rfl
  · rintro _ _ - hruns (⟨n, s, -, -, -, -⟩ | ⟨n, s, -, -, -⟩ | ⟨n, hstep, -⟩)
    · exact hruns.tail (.publish s _)
    · exact hruns.tail (.publish s _)
    · exact hruns.tail hstep

/-- **The messages are the events and their duplicates.** -/
theorem length_of_tallied (hreads : ReadsEvents d calls) {n : ℕ} (h : Tallied d calls n s) :
    s.raw.length = (publishedCalls d calls s).ncard + n := by
  refine h.invariant (P := fun w : ℕ × PipelineState =>
    w.2.raw.length = (publishedCalls d calls w.2).ncard + w.1) ?_ ?_
  · rintro _ rfl
    have hnone : publishedCalls d calls .init = ∅ :=
      Set.eq_empty_of_forall_notMem fun c ⟨_, _, _, _, hm, _⟩ => List.not_mem_nil hm
    rw [hnone, Set.ncard_empty]
    rfl
  · rintro _ _ - hlength (⟨n, s, hc, hus, hvalue, hfresh⟩ | ⟨n, s, hc, hus, hvalue⟩ | ⟨n, -, hraw⟩)
      <;> dsimp only at hlength ⊢
    · rw [publishedCalls_publish hreads hc hus hvalue,
        Set.ncard_insert_of_notMem hfresh (finite_publishedCalls hreads)]
      change (s.raw ++ [_]).length = _
      rw [List.length_append, List.length_singleton, hlength]
      omega
    · rw [publishedCalls_publish hreads hc.1 hus hvalue, Set.insert_eq_of_mem hc]
      change (s.raw ++ [_]).length = _
      rw [List.length_append, List.length_singleton, hlength]
      omega
    · rw [publishedCalls_congr hraw]
      exact (congrArg List.length hraw).trans hlength

/-! ## The entries of the DLQ topic -/

/-- The sink reads the id of a payload with the `json` of the deployment. -/
def SinkJson (d : Deployment) (s : PipelineState) : Prop :=
  ∀ env o r reason stage n, s.OnDlq (sinkRecord env d.conf.sink o r reason stage n).asdict →
    payloadGet (env.codec.loads (rowJson env.codec r)) "event_id" =
      payloadGet (d.codec.loads (rowJson env.codec r)) "event_id"

/-- What `inspect` sees of an entry: the id of its call, or no id. -/
structure Entry (d : Deployment) (calls : Set Call) (e : Dict) : Prop where
  reason : ∃ reason, e.lookup "failure_reason" = some (.str reason)
  retryCount : ∃ n, e.lookup "retry_count" = some (.int n)
  stage : ∃ stage, e.lookup "failure_stage" = some (.str stage)
  eventId : (∃ c ∈ calls, ∃ us, c.eventUs = some us ∧
      e.lookup "original_payload" = some (.str ((c.eventAt us).text d.codec)) ∧
      e.lookup "event_id" = some (.str (uuidText c.eventId))) ∨
    e.lookup "original_payload" = none ∧ e.lookup "event_id" = none

/-- An entry for a call has an event id `inspect` can count. -/
theorem Entry.legible {e : Dict} (h : Entry d calls e) : Legible e := by
  refine ⟨?_, h.reason, h.retryCount, h.stage⟩
  rcases h.eventId with ⟨c, -, us, -, -, hid⟩ | ⟨-, hnone⟩
  · exact Or.inl ⟨_, hid⟩
  · exact Or.inr hnone

/-- The id that is read of the text of a call. -/
theorem payloadGet_generated (hreads : ReadsEvents d calls) (hc : c ∈ calls)
    (hus : c.eventUs = some us) :
    payloadGet (d.codec.loads ((c.eventAt us).text d.codec)) "event_id" =
      .str (uuidText c.eventId) := by
  rw [loads_generated hreads hc hus]
  rfl

/-- The row of a message with the text of a call has its id, and is parseable. -/
theorem source_generated (hreads : ReadsEvents d calls) (hc : c ∈ calls) (hus : c.eventUs = some us)
    {m : KafkaMessage} (hvalue : m.value = some ((c.eventAt us).text d.codec)) :
    (source d.spark m).event.eventId = some (uuidText c.eventId) ∧
      (source d.spark m).unparseable = false := by
  obtain ⟨ev, hev, -⟩ := parsed_generated hreads hc hus
  have hid : ev.eventId = some (uuidText c.eventId) := by
    have hcolumn : PyVal.ofOption PyVal.str ev.eventId = .str (uuidText c.eventId) :=
      (hreads.documented.columns _ _ _ (loads_generated hreads hc hus) hev ("event_id", .string)
        (by decide)).of_str rfl
    rcases ho : ev.eventId with _ | id
    · rw [ho] at hcolumn
      cases hcolumn
    · rw [ho] at hcolumn
      rw [PyVal.str.inj hcolumn]
  simp only [source, hvalue, Option.bind_some, hev, Option.getD_some, hid]
  exact ⟨trivial, rfl⟩

/-- The payload and the id in a record of the sink. -/
theorem lookup_sinkRecord (env : SinkEnv) (conf : SinkConf) (o : Origin) (r : StreamRow)
    (reason stage : String) (n : ℕ) :
    (sinkRecord env conf o r reason stage n).asdict.lookup "original_payload" =
        some (.str (rowJson env.codec r)) ∧
      (sinkRecord env conf o r reason stage n).asdict.lookup "event_id" =
        some (payloadGet (env.codec.loads (rowJson env.codec r)) "event_id") :=
  ⟨rfl, rfl⟩

/-- A record of the sink. -/
theorem entry_sinkRecord (hreads : ReadsEvents d calls) (hjson : SinkJson d s) (hc : c ∈ calls)
    (hus : c.eventUs = some us) {m : KafkaMessage}
    (hvalue : m.value = some ((c.eventAt us).text d.codec)) (env : SinkEnv) (o : Origin)
    (reason stage : String) (n : ℕ)
    (he : s.OnDlq (sinkRecord env d.conf.sink o (source d.spark m) reason stage n).asdict) :
    Entry d calls (sinkRecord env d.conf.sink o (source d.spark m) reason stage n).asdict := by
  obtain ⟨-, hparse⟩ := source_generated hreads hc hus hvalue
  obtain ⟨text, htext, hpayload⟩ := rowJson_source hreads.empty hparse env.codec
  obtain rfl : (c.eventAt us).text d.codec = text := Option.some.inj (hvalue.symm.trans htext)
  obtain ⟨hlookup, hread⟩ := lookup_sinkRecord env d.conf.sink o (source d.spark m) reason stage n
  refine ⟨⟨_, rfl⟩, ⟨_, rfl⟩, ⟨_, rfl⟩, Or.inl ⟨c, hc, us, hus, ?_, ?_⟩⟩
  · rw [hlookup, hpayload]
  · rw [hread, hjson env o _ reason stage n he, hpayload, payloadGet_generated hreads hc hus]

/-- **Every entry is that of a call**, or of a message without a value. -/
theorem entry_of_onDlq (hreads : ReadsEvents d calls) (h : RunsIn d (textsOf d calls) s)
    (hjson : SinkJson d s) {e : Dict} (he : s.OnDlq e) : Entry d calls e := by
  obtain ⟨hruns, hU⟩ := h.runs
  have horigin := (runs_traced hreads.empty hruns).dlq e he
  cases horigin with
  | @producer payload host reason now retryCount topic hpayload =>
      obtain ⟨c, hc, us, hus, rfl⟩ := hU payload hpayload
      refine ⟨⟨_, rfl⟩, ⟨_, rfl⟩, ⟨_, rfl⟩, Or.inl ⟨c, hc, us, hus, rfl, ?_⟩⟩
      exact congrArg some (payloadGet_generated hreads hc hus)
  | @stream m e hm hq =>
      have hrow : ∀ {r}, r ∈ Frame.rows [[source d.spark m]] → r = source d.spark m :=
        fun hr => List.mem_singleton.mp hr
      rcases hvalue : m.value with _ | text
      · -- only the frame of the unparseable rows takes such a message
        have hbad : (source d.spark m).unparseable = true := by
          simp [source, hvalue]
        cases hq with
        | unparseable now hr _ =>
            obtain rfl := hrow hr
            refine ⟨⟨_, lookup_toJsonStruct rfl rfl⟩, ⟨_, lookup_toJsonStruct rfl rfl⟩,
              ⟨_, lookup_toJsonStruct rfl rfl⟩, Or.inr ?_⟩
            have hraw : (source d.spark m).raw = none := hvalue
            unfold unparseableRecord
            rw [hraw]
            exact ⟨rfl, rfl⟩
        | late now cutoffText hr hparse _ _ =>
            rw [hrow hr, hbad] at hparse
            cases hparse
        | refused env o reason hr hparse _ =>
            rw [hrow hr, hbad] at hparse
            cases hparse
        | givenUp env o reason n hr hparse _ =>
            rw [hrow hr, hbad] at hparse
            cases hparse
      · obtain ⟨c, hc, us, hus, rfl⟩ := hU text (hm text hvalue)
        obtain ⟨hid, hparse⟩ := source_generated hreads hc hus hvalue
        cases hq with
        | unparseable now hr hbad =>
            rw [hrow hr, hparse] at hbad
            cases hbad
        | late now cutoffText hr _ _ _ =>
            obtain rfl := hrow hr
            refine ⟨⟨_, lookup_toJsonStruct rfl rfl⟩, ⟨_, lookup_toJsonStruct rfl rfl⟩,
              ⟨_, lookup_toJsonStruct rfl rfl⟩, Or.inl ⟨c, hc, us, hus, ?_, ?_⟩⟩
            · have hraw : (source d.spark m).raw = some ((c.eventAt us).text d.codec) := hvalue
              refine lookup_toJsonStruct ?_ rfl
              unfold lateRecord
              rw [hraw]
              rfl
            · refine lookup_toJsonStruct ?_ rfl
              unfold lateRecord
              rw [hid]
              rfl
        | refused env o reason hr _ _ =>
            obtain rfl := hrow hr
            exact entry_sinkRecord hreads hjson hc hus hvalue env o reason _ 0 he
        | givenUp env o reason n hr _ _ =>
            obtain rfl := hrow hr
            exact entry_sinkRecord hreads hjson hc hus hvalue env o reason _ n he

/-! ## What `inspect` counts -/

section inspect

variable {polls : List Poll} {recs : List DlqRead}

/-- A poll of the whole topic reads every entry. -/
theorem exists_read_of_entry (hrecs : Replay.readAll (values s.dlq) polls 0 = .ok recs)
    (hpolls : PolledOut (values s.dlq) polls) {e : Dict} (he : s.OnDlq e) :
    ∃ r ∈ recs, HasFields r e := by
  obtain ⟨p, hp⟩ := he
  obtain ⟨o, ho⟩ := List.mem_iff_getElem?.mp hp
  obtain ⟨r, hr, -, hfields⟩ := exists_read_of_polledOut hrecs hpolls (l := ⟨p, o⟩) ho
  exact ⟨r, hr, hfields⟩

/-- And nothing else. -/
theorem exists_entry_of_read (hrecs : Replay.readAll (values s.dlq) polls 0 = .ok recs)
    {r : DlqRead} (hr : r ∈ recs) : ∃ e, s.OnDlq e ∧ HasFields r e := by
  obtain ⟨e, he, hfields⟩ := read_of_values hrecs hr
  exact ⟨e, ⟨r.loc.partition, List.mem_of_getElem? he⟩, hfields⟩

variable (hreads : ReadsEvents d calls) (h : RunsIn d (textsOf d calls) s) (hjson : SinkJson d s)

include hreads h hjson

/-- **`inspect` ends on the topic of a pipeline.** -/
theorem exists_inspect (name : String) (herror : ∀ e, Poll.error e ∉ polls) :
    ∃ res, inspect name (values s.dlq) polls = .ok res :=
  exists_inspect_of_legible (fun _ he => (entry_of_onDlq hreads h hjson he).legible) name herror

/-- **It counts the events on the topic**, however often each is there. -/
theorem distinct_of_inspect (hids : ∀ c ∈ calls, ∀ c' ∈ calls, c.eventId = c'.eventId → c = c')
    (hpolls : PolledOut (values s.dlq) polls) {name : String} {res : InspectResult}
    (hres : inspect name (values s.dlq) polls = .ok res) :
    (quarantinedCalls d calls s).Finite ∧
      res.distinctEventIds = (quarantinedCalls d calls s).ncard := by
  obtain ⟨recs, hrecs, hres⟩ := bind_eq_ok_iff.mp hres
  obtain ⟨distinct, hdistinct, hres⟩ := bind_eq_ok_iff.mp hres
  have hcount : res.distinctEventIds = distinct.dedup.length := by
    repeat obtain ⟨_, -, hres⟩ := bind_eq_ok_iff.mp hres
    rw [← Except.ok.inj hres]
  have hall := mapM_eq_ok_iff.mp hdistinct
  have hset : {k | k ∈ distinct} =
      (fun c : Call => HashKey.str (uuidText c.eventId)) '' quarantinedCalls d calls s := by
    ext k
    constructor
    · intro hk
      obtain ⟨v, hv, hkey⟩ := exists_of_mem_right hall hk
      obtain ⟨hv, htruthy⟩ := List.mem_filter.mp hv
      obtain ⟨r, hr, rfl⟩ := List.mem_map.mp hv
      obtain ⟨e, he, hfields⟩ := exists_entry_of_read hrecs hr
      rw [Dict.get, hfields _ (by decide) (by decide)] at htruthy hkey
      rcases (entry_of_onDlq hreads h hjson he).eventId with
        ⟨c, hc, us, hus, hpayload, hid⟩ | ⟨-, hnone⟩
      · rw [hid] at hkey
        exact ⟨c, ⟨hc, us, hus, e, he, hpayload⟩, Except.ok.inj hkey⟩
      · rw [hnone] at htruthy
        cases htruthy
    · rintro ⟨c, ⟨hc, us, hus, e, he, hpayload⟩, rfl⟩
      obtain ⟨r, hr, hfields⟩ := exists_read_of_entry hrecs hpolls he
      rcases (entry_of_onDlq hreads h hjson he).eventId with
        ⟨c', hc', us', hus', hpayload', hid⟩ | ⟨hnone, -⟩
      · obtain rfl := call_of_text hreads hc hus hc' hus'
          (PyVal.str.inj (Option.some.inj (hpayload.symm.trans hpayload')))
        have hget : Dict.get r.fields "event_id" = .str (uuidText c.eventId) :=
          get_of_lookup ((hfields _ (by decide) (by decide)).trans hid)
        have hmem : PyVal.str (uuidText c.eventId) ∈
            (recs.map fun r => Dict.get r.fields "event_id").filter PyVal.truthy := by
          refine List.mem_filter.mpr ⟨List.mem_map.mpr ⟨r, hr, hget⟩, ?_⟩
          simpa [PyVal.truthy] using uuidText_ne_empty c.eventId_lt
        obtain ⟨k, hk, hkey⟩ := exists_of_mem_left hall hmem
        rwa [← Except.ok.inj hkey] at hk
      · rw [hnone] at hpayload
        cases hpayload
  have hinj : Set.InjOn (fun c : Call => HashKey.str (uuidText c.eventId))
      (quarantinedCalls d calls s) := by
    intro c hc c' hc' hkey
    have hread := uuidOfText_uuidText c.eventId_lt
    rw [HashKey.str.inj hkey, uuidOfText_uuidText c'.eventId_lt] at hread
    exact hids c hc.1 c' hc'.1 (Option.some.inj hread).symm
  refine ⟨Set.Finite.of_finite_image (hset ▸ List.finite_toSet distinct) hinj, ?_⟩
  rw [hcount, ← hinj.ncard_image, ← hset, ← List.card_toFinset, ← Set.ncard_coe_finset,
    List.coe_toFinset]

end inspect

/-! ## The verdict -/

/-- What the harness reads of a finished run, whose producer has counted `dupes` duplicates. -/
structure Observes (loads : String → Except Exc PyVal) (scenario : Scenario) (dupes : ℕ)
    (s : PipelineState) (o : Readings) : Prop where
  acked : ∃ acked, getCount (.dict (o.producer.getD [])) "acked" = .ok acked
  raw : max 0 (topicCount o.rawEnds - scenario.rawBefore) = s.raw.length
  duplicates : getCount (.dict (o.producer.getD [])) "duplicates_emitted" = .ok (dupes : ℤ)
  rows : (o.cassandra.lookup "trips_by_id").getD 0 - scenario.tripsBefore = rowCount s .tripsById
  /-- `inspect` polls the topic to its end, and its output is read back. -/
  inspected : ∃ name polls res info, PolledOut (values s.dlq) polls ∧
    inspect name (values s.dlq) polls = .ok res ∧ dlqDistinctEvents loads o.inspect = .ok info ∧
      getCount info "distinct_event_ids" = .ok (res.distinctEventIds : ℤ)

/-- **The harness's verdict on a finished run**: whatever has failed or started anew, and in
whatever order, once nothing is left to be read each event published is written or quarantined, and
the report counts these. It names no more loss than there are messages on `trips.raw` that are
neither the one of an event nor a duplicate the producer has counted. Of a tallied run, where there
are none, it names no loss, and counts the events published. -/
theorem verdict_of_run (hreads : ReadsEvents d calls)
    (hids : ∀ c ∈ calls, ∀ c' ∈ calls, c.eventId = c'.eventId → c = c')
    (hpolicy : d.conf.latePolicy = "dlq" ∨ d.conf.latePolicy = "process")
    (h : RunsIn d (textsOf d calls) s) (hjson : SinkJson d s) (hpending : s.pending = [])
    {loads : String → Except Exc PyVal} {scenario : Scenario} {dupes : ℕ} {o : Readings}
    (hobs : Observes loads scenario dupes s o) :
    publishedCalls d calls s ⊆ writtenCalls calls s ∪ quarantinedCalls d calls s ∧
      ∃ r, buildReport loads scenario o = .ok r ∧
        r.writtenDistinctTrips = (writtenCalls calls s).ncard ∧
        r.dlqDistinctEvents = (quarantinedCalls d calls s).ncard ∧
        r.expectedDistinctEvents = s.raw.length - dupes ∧
        r.unaccountedSilentLoss ≤
          max 0 (s.raw.length - dupes - (publishedCalls d calls s).ncard : ℤ) ∧
        (Tallied d calls dupes s → r.unaccountedSilentLoss = 0 ∧
          r.expectedDistinctEvents = (publishedCalls d calls s).ncard ∧
          r.accountedFor = (publishedCalls d calls s).ncard ∧
          r.partialWriteOverlap = (writtenCalls calls s).ncard +
            (quarantinedCalls d calls s).ncard - (publishedCalls d calls s).ncard) := by
  obtain ⟨acked, hacked⟩ := hobs.acked
  obtain ⟨name, polls, res, info, hpolls, hres, hinfo, hdistinct⟩ := hobs.inspected
  obtain ⟨hfinite, hquarantined⟩ := distinct_of_inspect hreads h hjson hids hpolls hres
  have hwritten := hobs.rows
  rw [rowCount_tripsById hreads h] at hwritten
  rw [hquarantined] at hdistinct
  have hsub := published_subset hreads hpolicy h hpending
  have hle : (publishedCalls d calls s).ncard ≤
      (writtenCalls calls s).ncard + (quarantinedCalls d calls s).ncard :=
    (Set.ncard_le_ncard hsub ((finite_writtenCalls hreads).union hfinite)).trans
      (Set.ncard_union_le _ _)
  refine ⟨hsub, ?_⟩
  unfold buildReport
  simp only [hinfo, hdistinct, hacked, hobs.duplicates, hobs.raw, hwritten, bind, Except.bind,
    if_neg (not_lt.mpr (Int.natCast_nonneg _))]
  refine ⟨_, rfl, rfl, rfl, rfl, ?_, fun htallied => ?_⟩
  · dsimp only
    omega
  · have hlength := length_of_tallied hreads htallied
    refine ⟨?_, ?_, ?_, ?_⟩ <;> dsimp only <;> omega

/-! ## A verdict -/

/-- No run came before. -/
def freshScenario : Scenario := ⟨0, 0, 0⟩

/-- Two messages with one event, its row and its entry. -/
def sampleReadings : Readings where
  producer := some [("acked", .int 2), ("duplicates_emitted", .int 1)]
  dlqEnds := [(0, 1)]
  inspect := ⟨0, "\x7b\x7d", ""⟩
  cassandra := [("trips_by_id", 1)]
  rawEnds := [(0, 2)]

/-- The output of `inspect`, read back. -/
def oneQuarantined : String → Except Exc PyVal :=
  fun _ => .ok (.dict [("distinct_event_ids", .int 1)])

/-- The writer's record of the event, one of whose statements is given up. -/
def refusedOnce : Dict :=
  (sinkRecord { steadySink with codec := generatedDeployment.codec } generatedDeployment.conf.sink
    ⟨0, none⟩ (source generatedDeployment.spark generatedMessage) "timed out" stageCassandraSink
    5).asdict

/-- The event and its duplicate are published, and the job dies after it has given up a statement of
the first. -/
def diedOnce : PipelineState :=
  ((((((PipelineState.init.offer [generatedText]).publish [generatedMessage]).offer
    [generatedText]).publish [generatedMessage]).advance none
      [generatedMessage, generatedMessage]).quarantine [(0, refusedOnce)]).execute []

/-- The record is one a batch of the two messages can leave. -/
theorem quarantines_refusedOnce :
    Quarantines generatedDeployment.conf (copiesBatch 1) refusedOnce :=
  .givenUp _ _ _ _ List.mem_cons_self (parseable_of_buildable buildable_generatedMessage).1
    (not_refused_of_buildable buildable_generatedMessage)

/-- It has the text and the id of the event. -/
theorem lookup_refusedOnce : refusedOnce.lookup "original_payload" = some (.str generatedText) ∧
    refusedOnce.lookup "event_id" = some (.str (uuidText sampleCall.eventId)) := by
  obtain ⟨text, htext, hjson⟩ := rowJson_source readsEvents_sample.empty
    (parseable_of_buildable buildable_generatedMessage).1 generatedDeployment.codec
  obtain rfl : generatedText = text := Option.some.inj htext
  obtain ⟨hpayload, hid⟩ := lookup_sinkRecord
    { steadySink with codec := generatedDeployment.codec } generatedDeployment.conf.sink ⟨0, none⟩
    (source generatedDeployment.spark generatedMessage) "timed out" stageCassandraSink 5
  refine ⟨hpayload.trans (by rw [hjson]), hid.trans ?_⟩
  rw [hjson]
  exact congrArg some (payloadGet_generated readsEvents_sample rfl eventUs_sampleCall)

/-- The event on `trips.raw`. -/
theorem mem_published_sample (hm : generatedMessage ∈ s.raw) :
    sampleCall ∈ publishedCalls generatedDeployment {sampleCall} s :=
  ⟨rfl, _, eventUs_sampleCall, generatedMessage, hm, rfl⟩

/-- The steps of such a run, with the duplicate counted. -/
theorem tallied_diedOnce : Tallied generatedDeployment {sampleCall} 1 diedOnce := by
  have hstart : Tallied generatedDeployment {sampleCall} 0 .init := .of_start rfl
  have hevent := hstart.tail (.event 0 .init (m := generatedMessage) rfl eventUs_sampleCall rfl
    fun ⟨_, _, _, _, hm, _⟩ => List.not_mem_nil hm)
  have hduplicate := hevent.tail (.duplicate 0 _ (m := generatedMessage)
    (mem_published_sample List.mem_cons_self) eventUs_sampleCall rfl)
  have hpending : ([] ++ [generatedMessage] ++ [generatedMessage]).Perm
      ([generatedMessage, generatedMessage] ++ []) := .refl _
  have hrows : (copiesBatch 1).rows.Perm ([generatedMessage, generatedMessage].map
      (source generatedDeployment.spark)) := .refl _
  have hnew : ∀ e ∈ [((0 : ℕ), refusedOnce)],
      Quarantines generatedDeployment.conf (copiesBatch 1) e.2 := by
    intro e he
    rw [List.mem_singleton.mp he]
    exact quarantines_refusedOnce
  exact hduplicate.tail (.other 1 (.abort _ hpending hrows hnew fun _ hst => nomatch hst) rfl)

/-- After a new batch the event is in both places, and no other is in any. -/
theorem exists_run_repeated : ∃ s,
    RunsIn generatedDeployment (textsOf generatedDeployment {sampleCall}) s ∧
      Tallied generatedDeployment {sampleCall} 1 s ∧
      s.raw = [generatedMessage, generatedMessage] ∧ s.pending = [] ∧
      s.dlq = diedOnce.dlq ∧ ∀ t,
        visible s (t, generatedKey sampleCall 1700000000000000 t) =
          some (generatedRow sampleCall 1700000000000000 t) := by
  have htallied := tallied_diedOnce
  have hreach : RunsIn generatedDeployment (textsOf generatedDeployment {sampleCall}) diedOnce := by
    refine runsIn_of_runs (runs_of_tallied htallied) fun text hmem => ?_
    have heq : text = generatedText := by
      rcases List.mem_cons.mp hmem with heq | hmem
      · exact heq
      · exact List.mem_singleton.mp hmem
    exact heq ▸ generatedText_mem
  obtain ⟨s, hs, hstep, hraw, hpending, hdlq, hvisible⟩ := exists_run_batch (n := 1) hreach rfl rfl
  exact ⟨s, hs, htallied.tail (.other 1 hstep hraw), hraw, hpending, hdlq, hvisible⟩

/-- The record is the only one. -/
theorem onDlq_sample (hdlq : s.dlq = diedOnce.dlq) (e : Dict) : s.OnDlq e ↔ e = refusedOnce := by
  unfold PipelineState.OnDlq
  rw [hdlq]
  constructor
  · rintro ⟨p, hp⟩
    rcases PipelineState.mem_quarantine.mp hp with hnone | hnew
    · cases hnone
    · exact (Prod.mk.inj (List.mem_singleton.mp hnew)).2
  · rintro rfl
    exact ⟨0, PipelineState.mem_quarantine.mpr (Or.inr (List.mem_singleton_self _))⟩

/-- The sink has read the id as the deployment does. -/
theorem sinkJson_sample (hdlq : s.dlq = diedOnce.dlq) :
    SinkJson generatedDeployment s := by
  intro env o r reason stage n he
  have heq := (onDlq_sample hdlq _).mp he
  obtain ⟨hpayload, hid⟩ := lookup_refusedOnce
  obtain ⟨hpayload', hid'⟩ := lookup_sinkRecord env generatedDeployment.conf.sink o r reason stage n
  rw [heq] at hpayload' hid'
  have htext : rowJson env.codec r = generatedText :=
    PyVal.str.inj (Option.some.inj (hpayload'.symm.trans hpayload))
  have hread : payloadGet (env.codec.loads (rowJson env.codec r)) "event_id" =
      .str (uuidText sampleCall.eventId) := Option.some.inj (hid'.symm.trans hid)
  rw [hread, htext]
  exact (payloadGet_generated readsEvents_sample rfl eventUs_sampleCall).symm

/-- The harness reads two messages, a row and an event on the DLQ topic. -/
theorem observes_sample
    (h : RunsIn generatedDeployment (textsOf generatedDeployment {sampleCall}) s)
    (hraw : s.raw = [generatedMessage, generatedMessage])
    (hdlq : s.dlq = diedOnce.dlq)
    (hvisible : (visible s (.tripsById, generatedKey sampleCall 1700000000000000
      .tripsById)).isSome) :
    Observes oneQuarantined freshScenario 1 s sampleReadings := by
  have hids : ∀ c ∈ ({sampleCall} : Set Call), ∀ c' ∈ ({sampleCall} : Set Call),
      c.eventId = c'.eventId → c = c' := fun _ hc _ hc' _ => hc.trans hc'.symm
  have hwritten : writtenCalls {sampleCall} s = {sampleCall} := by
    refine Set.Subset.antisymm (fun c hc => hc.1) ?_
    rintro c rfl
    exact ⟨rfl, _, eventUs_sampleCall, hvisible⟩
  have hquarantined : quarantinedCalls generatedDeployment {sampleCall} s = {sampleCall} := by
    refine Set.Subset.antisymm (fun c hc => hc.1) ?_
    rintro c rfl
    exact ⟨rfl, _, eventUs_sampleCall, refusedOnce, (onDlq_sample hdlq _).mpr rfl,
      lookup_refusedOnce.1⟩
  have hpolls : PolledOut (values s.dlq) [.message 0] := by
    intro p
    rw [values, hdlq, List.length_map]
    by_cases hp : p = 0
    · subst hp
      exact le_rfl
    · have hempty : diedOnce.dlq p = [] := by
        have hne : ¬0 = p := fun h => hp h.symm
        simp [diedOnce, PipelineState.execute, PipelineState.quarantine, PipelineState.advance,
          PipelineState.publish, PipelineState.offer, PipelineState.init, hne]
      rw [hempty]
      exact Nat.zero_le _
  have hjson := sinkJson_sample hdlq
  have herror : ∀ e, Poll.error e ∉ [Poll.message 0] := by simp
  obtain ⟨res, hres⟩ := exists_inspect readsEvents_sample h hjson "trips.dlq" herror
  refine ⟨⟨2, rfl⟩, ?_, rfl, ?_, "trips.dlq", [.message 0], res, _, hpolls, hres, rfl, ?_⟩
  · rw [hraw]
    rfl
  · rw [rowCount_tripsById readsEvents_sample h, hwritten, Set.ncard_singleton]
    rfl
  · rw [(distinct_of_inspect readsEvents_sample h hjson hids hpolls hres).2, hquarantined,
      Set.ncard_singleton]
    rfl

/-- An event published twice, written and quarantined. -/
theorem verdict_of_run_sample : ∃ s, s.raw = [generatedMessage, generatedMessage] ∧
    s.OnDlq refusedOnce ∧ Tallied generatedDeployment {sampleCall} 1 s ∧
    publishedCalls generatedDeployment {sampleCall} s ⊆
        writtenCalls {sampleCall} s ∪ quarantinedCalls generatedDeployment {sampleCall} s ∧
      ∃ r, buildReport oneQuarantined freshScenario sampleReadings = .ok r ∧
        r.writtenDistinctTrips = (writtenCalls {sampleCall} s).ncard ∧
        r.dlqDistinctEvents = (quarantinedCalls generatedDeployment {sampleCall} s).ncard ∧
        r.expectedDistinctEvents = s.raw.length - (1 : ℕ) ∧
        r.unaccountedSilentLoss ≤ max 0 (s.raw.length - (1 : ℕ) -
          (publishedCalls generatedDeployment {sampleCall} s).ncard : ℤ) ∧
        (Tallied generatedDeployment {sampleCall} 1 s → r.unaccountedSilentLoss = 0 ∧
          r.expectedDistinctEvents = (publishedCalls generatedDeployment {sampleCall} s).ncard ∧
          r.accountedFor = (publishedCalls generatedDeployment {sampleCall} s).ncard ∧
          r.partialWriteOverlap = (writtenCalls {sampleCall} s).ncard +
            (quarantinedCalls generatedDeployment {sampleCall} s).ncard -
              (publishedCalls generatedDeployment {sampleCall} s).ncard) := by
  obtain ⟨s, hs, htallied, hraw, hpending, hdlq, hvisible⟩ := exists_run_repeated
  have hrow : (visible s (.tripsById, generatedKey sampleCall 1700000000000000
      .tripsById)).isSome := by
    rw [hvisible]
    rfl
  exact ⟨s, hraw, (onDlq_sample hdlq _).mpr rfl, htallied, verdict_of_run readsEvents_sample
    (fun _ hc _ hc' _ => hc.trans hc'.symm) (Or.inl rfl) hs (sinkJson_sample hdlq) hpending
    (observes_sample hs hraw hdlq hrow)⟩

end TripPipeline.Flow
