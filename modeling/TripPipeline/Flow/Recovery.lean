import TripPipeline.Flow.Custody
import TripPipeline.Flow.Tables

/-!
# Recovery

Whatever has gone wrong before, one drain of the whole DLQ topic and one batch after it, both
without trouble, leave the event of every message of `trips.raw` in every serving table.

* `HealthyDrain`: what is assumed of the drain. The topic it reads is the pipeline's own.
* `Sound`: the events this is about: Spark and `json.loads` read the text, and it has statements.
* `DlqOrigin.drainable`: nothing the pipeline puts on the DLQ topic stops a drain
  (`exists_healthy_drain`).
* `reinjected_of_origin`, `written_of_origin`: an entry with a sound text is published again or
  written directly; none is parked (`DlqOrigin.recoverable`).
* `visible_recovered`, `pipeline_recovers`: the result.
-/

namespace TripPipeline.Flow

open Relation
open TripPipeline.Common TripPipeline.Lib
open TripPipeline.Streaming TripPipeline.Replay
open PipelineState (values)

variable {d : Deployment} {U : Set String} {s : PipelineState} {text : String}

/-! ## Sound texts -/

/-- Both readers of the program read the text, and it has statements. -/
structure Sound (d : Deployment) (text : String) : Prop where
  spark : ∃ e us, d.spark.fromJson text = some e ∧ e.eventTime.bind d.spark.toTimestamp = some us
  python : ∃ kvs dt, Readable d.codec d.fromIsoFormat text kvs dt ∧ Buildable (withTime kvs dt)

/-- The row of a sound text has statements. -/
theorem Sound.buildable (h : Sound d text) (hlawful : Lawful d U) (htext : text ∈ U)
    {m : KafkaMessage} (hm : m.value = some text) : Buildable (source d.spark m).asDict := by
  obtain ⟨e, us, hjson, htime⟩ := h.spark
  obtain ⟨kvs, dt, hread, hbuild⟩ := h.python
  exact buildable_asDict hlawful.documented hread hjson (source_event hm hjson htime) hbuild
    (hlawful.uniform text htext kvs dt hread).fits

/-- The build phase does not refuse it. -/
theorem not_refused_of_buildable {r : StreamRow} (h : Buildable r.asDict) :
    ¬Refused allTables r := by
  intro hrefused
  obtain ⟨stmts, hstmts⟩ := (buildStatements_allTables_iff _ 0).mpr h
  exact hrefused 0 stmts hstmts

/-- A row that has statements can be read, and has an event time. -/
theorem parseable_of_buildable {spark : SparkSql} {m : KafkaMessage}
    (h : Buildable (source spark m).asDict) :
    (source spark m).unparseable = false ∧ (source spark m).event.eventTime ≠ none := by
  obtain ⟨id, n, hid, -⟩ := h.event
  obtain ⟨dt, hdt⟩ := h.time
  have hevent : PyVal.ofOption .str (source spark m).event.eventId = .str id := Option.some.inj hid
  have htime : PyVal.ofOption (fun us => .datetime ⟨us, none⟩)
      (source spark m).event.eventTime = .datetime dt := Option.some.inj hdt
  constructor
  · rcases hparsed : m.value.bind spark.fromJson with _ | e
    · simp [source, hparsed, Event.nulls] at hevent
    · rcases hnone : e.eventId with _ | id'
      · simp [source, hparsed, hnone] at hevent
      · simp [source, hparsed, hnone]
  · intro hnone
    rw [hnone] at htime
    cases htime

/-- It is not empty. -/
theorem Sound.ne_empty (h : Sound d text) (hspark : d.spark.fromJson "" = none) : text ≠ "" := by
  rintro rfl
  obtain ⟨e, us, hjson, -⟩ := h.spark
  cases hspark.symm.trans hjson

/-! ## Entries of the DLQ topic -/

section entries

variable {offered : List String} {e : Dict}

/-- **Nothing the pipeline puts on the DLQ topic stops a drain**: it was never replayed, and names
its stage. -/
theorem DlqOrigin.drainable (h : DlqOrigin d offered e) :
    e.lookup "replay_count" = some (.int 0) ∧
      ∃ stage, e.lookup "failure_stage" = some (.str stage) := by
  cases h with
  | producer host reason now retryCount topic hpayload => exact ⟨rfl, stageProducer, rfl⟩
  | stream hm hq =>
      obtain ⟨r, -, henvelope⟩ := hq.envelope
      exact ⟨henvelope.replayCount, henvelope.stage⟩

/-- **An entry with a sound text is not sent to the park list.** -/
theorem DlqOrigin.recoverable (h : DlqOrigin d offered e) (hlawful : Lawful d U) (htext : text ∈ U)
    (hsound : Sound d text) (hpayload : e.lookup "original_payload" = some (.str text)) :
    ∃ stage, e.lookup "failure_stage" = some (.str stage) ∧
      (stage ∈ reinjectStages ∨ stage = stageLate) := by
  cases h with
  | producer host reason now retryCount topic _ => exact ⟨stageProducer, rfl, Or.inl (by decide)⟩
  | @stream m e hm hq =>
      obtain ⟨text', hvalue, heq⟩ := payload_of_quarantines hlawful.empty hq hpayload
      obtain rfl := PyVal.str.inj heq
      have hbuildable := hsound.buildable hlawful htext hvalue
      have hrow : ∀ {r}, r ∈ Frame.rows [[source d.spark m]] → r = source d.spark m :=
        fun hr => List.mem_singleton.mp hr
      cases hq with
      | unparseable now hr hbad =>
          rw [hrow hr, (parseable_of_buildable hbuildable).1] at hbad
          cases hbad
      | late now cutoffText hr _ _ _ =>
          exact ⟨stageLate, lookup_toJsonStruct rfl rfl, Or.inr rfl⟩
      | refused env o reason hr _ hrefused =>
          rw [hlawful.tables, hrow hr] at hrefused
          exact absurd hrefused (not_refused_of_buildable hbuildable)
      | givenUp env o reason n hr _ _ => exact ⟨stageCassandraSink, rfl, Or.inl (by decide)⟩

end entries

/-! ## A drain without trouble -/

/-- A drain of the whole topic that meets no trouble. -/
structure HealthyDrain (d : Deployment) (dlq : Topic Dict) (args : DrainArgs) (env : DrainEnv) :
    Prop where
  codec : env.codec = d.codec
  fromIsoFormat : env.fromIsoFormat = d.fromIsoFormat
  dryRun : args.dryRun = false
  limit : args.limit = 0
  maxReplays : 0 < args.maxReplays
  /-- The topic is polled to its end. -/
  polls : PolledOut (values dlq) env.polls
  noError : ∀ e, Poll.error e ∉ env.polls
  produce : ∀ l, env.produce l = .ok ()
  delivery : ∀ l, env.delivery l = .acked
  connect : env.connect = .ok ()
  execute : ∀ l t, env.execute l t = .ok ()
  openPark : env.openPark = .ok ()

section drain

variable {args : DrainArgs} {env : DrainEnv} {run : DrainRun}

/-- The record of an entry is classified by its stage. -/
theorem classify_read (hhealthy : HealthyDrain d s.dlq args env) (htraced : Traced d s)
    {recs : List DlqRead} (hrecs : Replay.readAll (values s.dlq) env.polls args.limit = .ok recs)
    {r : DlqRead} (hr : r ∈ recs) :
    ∃ e stage, (s.dlq r.loc.partition)[r.loc.offset]? = some e ∧
      e.lookup "failure_stage" = some (.str stage) ∧
      classify env args.maxReplays r = .ok (
        if reinjectStages.contains stage then .reinject
        else if directWriteStages.contains stage then .direct
        else .park ("stage " ++ env.repr (.str stage) ++ " is not automatically recoverable")) := by
  obtain ⟨e, he, hfields⟩ := read_of_values hrecs hr
  obtain ⟨hzero, stage, hstage⟩ :=
    (htraced.dlq e ⟨r.loc.partition, List.mem_of_getElem? he⟩).drainable
  refine ⟨e, stage, he, hstage, ?_⟩
  rw [classify_eq ((hfields _ (by decide) (by decide)).trans hzero)
    ((hfields _ (by decide) (by decide)).trans hstage), if_neg (not_le.mpr hhealthy.maxReplays)]

/-- All three lists are handled. -/
theorem handle_direct (hhealthy : HealthyDrain d s.dlq args env) {recs : List DlqRead}
    {lists : Lists} : (handle env recs lists).direct =
      (handle env recs lists).lists.direct.map (directWriteOne env) := by
  have hpark : (if lists.park.isEmpty then .ok () else env.openPark) = .ok () := by
    rw [hhealthy.openPark, ite_self]
  have hwrite : directWrite env lists.direct = .ok (lists.direct.map (directWriteOne env)) := by
    unfold directWrite
    rw [hhealthy.connect]
    by_cases hnone : lists.direct.isEmpty = true
    · rw [if_pos hnone, List.isEmpty_iff.mp hnone]
      rfl
    · rw [if_neg hnone]
      rfl
  unfold handle
  dsimp only
  rw [hwrite]
  dsimp only
  rw [hpark]

/-- **A drain of the pipeline's topic ends.** -/
theorem exists_healthy_drain (hhealthy : HealthyDrain d s.dlq args env) (htraced : Traced d s) :
    ∃ run, drain args env (values s.dlq) = .ok run ∧
      run.direct = run.lists.direct.map (directWriteOne env) := by
  obtain ⟨recs, hrecs⟩ : ∃ recs, Replay.readAll (values s.dlq) env.polls args.limit = .ok recs := by
    refine exists_readLoop _ _ ?_ hhealthy.noError
    intro p v hv l
    obtain ⟨e, -, rfl⟩ := List.mem_map.mp hv
    exact ⟨_, rfl⟩
  obtain ⟨lists, hlists⟩ : ∃ lists, routeRecords env args.maxReplays recs = .ok lists := by
    refine exists_routeRecords fun r hr => ?_
    obtain ⟨e, stage, -, -, hclass⟩ := classify_read hhealthy htraced hrecs hr
    exact ⟨_, hclass⟩
  unfold Replay.readAll at hrecs
  unfold drain drainFrom
  rw [hrecs]
  by_cases hempty : recs.isEmpty = true
  · exact ⟨_, if_pos hempty, rfl⟩
  · refine ⟨handle env recs lists, ?_, ?_⟩
    · show (if recs.isEmpty = true then _ else _) = _
      rw [if_neg hempty, hlists]
      show (if args.dryRun = true then _ else _) = _
      rw [hhealthy.dryRun]
      rfl
    · exact handle_direct hhealthy

variable (hhealthy : HealthyDrain d s.dlq args env) (htraced : Traced d s)
  (hdrained : Drained args env (values s.dlq) run)

include hhealthy htraced hdrained

/-- The record of an entry with a sound text, and where it goes. -/
theorem read_of_entry (hlawful : Lawful d U) (htext : text ∈ U) (hsound : Sound d text) {e : Dict}
    (he : s.OnDlq e) (hpayload : e.lookup "original_payload" = some (.str text)) :
    ∃ r, r.fields.lookup "original_payload" = some (.str text) ∧
      (r ∈ run.lists.reinject ∨
        (r ∈ run.lists.direct ∧ e.lookup "failure_stage" = some (.str stageLate))) := by
  obtain ⟨p, hp⟩ := he
  obtain ⟨o, ho⟩ := List.mem_iff_getElem?.mp hp
  have hreads := hdrained.reads
  rw [hhealthy.limit] at hreads
  obtain ⟨r, hr, hloc, hfields⟩ := exists_read_of_polledOut hreads hhealthy.polls (l := ⟨p, o⟩) ho
  obtain ⟨e', stage, hentry, hstage, hclass⟩ := classify_read hhealthy htraced hdrained.reads hr
  rw [hloc] at hentry
  obtain rfl := Option.some.inj (ho.symm.trans hentry)
  refine ⟨r, (hfields _ (by decide) (by decide)).trans hpayload, ?_⟩
  obtain ⟨hreinject, hdirect, -⟩ := routeRecords_eq hdrained.routed
  obtain ⟨stage', hstage', hkind⟩ :=
    (htraced.dlq e ⟨p, hp⟩).recoverable hlawful htext hsound hpayload
  obtain rfl := PyVal.str.inj (Option.some.inj (hstage.symm.trans hstage'))
  rcases hkind with hin | rfl
  · rw [if_pos (List.contains_iff_mem.mpr hin)] at hclass
    left
    rw [hreinject, List.mem_filter]
    exact ⟨hr, decide_eq_true (congrArg Except.toOption hclass)⟩
  · right
    refine ⟨?_, hstage⟩
    rw [hdirect, List.mem_filter]
    exact ⟨hr, decide_eq_true (congrArg Except.toOption hclass)⟩

/-- **A sound entry is published again, or all its statements are executed.** -/
theorem recovered_of_entry (hall : run.direct = run.lists.direct.map (directWriteOne env))
    (hlawful : Lawful d U) (htext : text ∈ U) (hsound : Sound d text) {e : Dict}
    (he : s.OnDlq e) (hpayload : e.lookup "original_payload" = some (.str text)) :
    (∃ p ∈ run.produced, p.value = text) ∨
      ∃ stmts : List Statement, stmts.map Statement.key = allTables ∧
        ∀ st ∈ stmts, StatementOf d text st ∧ ∃ turn ∈ run.direct, st ∈ turn.executed := by
  obtain ⟨r, hr, hlist⟩ := read_of_entry hhealthy htraced hdrained hlawful htext hsound he hpayload
  obtain ⟨kvs, dt, hread, hbuild⟩ := hsound.python
  rcases hlist with hreinject | ⟨hdirect, hstage⟩
  · left
    obtain ⟨tripId, n, htrip, hn⟩ := hbuild.trip
    rw [withTime, Dict.lookup_set, if_neg (by decide)] at htrip
    have hne : tripId ≠ "" := by
      rintro rfl
      cases hn.symm.trans (by decide : uuidOfText "" = none)
    have hkey : (Dict.get kvs "trip_id").orElse ((Dict.get r.fields "event_id").orElse
        (.str "unknown")) = .str tripId := by
      rw [Dict.get, htrip]
      exact if_pos (by simpa [PyVal.truthy] using hne)
    have hone : reinjectOne env r = .ok ⟨r.loc, tripId, text, env.delivery r.loc⟩ :=
      reinjectOne_ok_iff.mpr ⟨text, kvs, tripId, hr, hhealthy.codec ▸ hread.loads, hkey,
        hhealthy.produce _, rfl⟩
    refine ⟨⟨r.loc, tripId, text, env.delivery r.loc⟩, ?_, rfl⟩
    rw [hdrained.produced]
    exact mem_reinjectAll.mpr ⟨r, hreinject, hone⟩
  · right
    obtain ⟨stmts, hstmts⟩ := (buildStatements_allTables_iff _ env.nowMs).mpr hbuild
    have hlate := (htraced.dlq e he).late hlawful.empty hstage hpayload
    have hout : directStatements d.codec d.fromIsoFormat env.nowMs (.str text) = .ok stmts :=
      directStatements_ok_iff.mpr ⟨kvs, dt, hread, hstmts⟩
    refine ⟨stmts, buildStatements_keys hstmts, fun st hst => ⟨.direct hlate hout hst, ?_⟩⟩
    refine ⟨directWriteOne env r, hall ▸ List.mem_map_of_mem hdirect, ?_⟩
    have hbuilt : (Dict.item r.fields "original_payload" >>=
        directStatements env.codec env.fromIsoFormat env.nowMs) = .ok stmts := by
      rw [hhealthy.codec, hhealthy.fromIsoFormat, bind_eq_ok_iff]
      exact ⟨_, item_ok_iff.mpr hr, hout⟩
    unfold directWriteOne
    rw [hbuilt]
    show st ∈ (executeAll (env.execute r.loc) stmts).1
    rw [(executeAll_eq_iff _ _).mpr fun st _ => hhealthy.execute r.loc st.key]
    exact hst

end drain

/-! ## A batch without trouble -/

/-- **A batch that follows a restart and meets no trouble writes every sound message it takes.** -/
theorem written_of_healthy_batch (hlawful : Lawful d U) {taken : List KafkaMessage} {batch : Frame}
    {benv : BatchEnv} {out : BatchRun} (hrows : batch.rows.Perm (taken.map (source d.spark)))
    (hhealthy : benv.Forall SinkEnv.Healthy) (hout : processBatch d.conf benv none batch = .ok out)
    {m : KafkaMessage} (hm : m ∈ taken) (hvalue : m.value = some text) (htext : text ∈ U)
    (hsound : Sound d text) : Written allTables (executedBy out) (source d.spark m) := by
  have hmem : source d.spark m ∈ batch.rows := hrows.mem_iff.mpr (List.mem_map_of_mem hm)
  have hbuildable := hsound.buildable hlawful htext hvalue
  have hroute := (processBatch_completed hout (Nat.ne_of_gt (List.length_pos_of_mem hmem))).routed
  have hgood : source d.spark m ∈ out.routes.good.rows := by
    rw [← Except.ok.inj hroute]
    exact mem_parseable.mpr ⟨hmem, (parseable_of_buildable hbuildable).1⟩
  have hnot : ¬Refused d.conf.sink.tables (source d.spark m) := by
    rw [hlawful.tables]
    exact not_refused_of_buildable hbuildable
  obtain ⟨ingestedAtMs, stmts, hstmts, hall⟩ := processBatch_healthy hout hhealthy hgood hnot
  rw [hlawful.tables] at hstmts
  exact ⟨ingestedAtMs, stmts, hstmts, fun st hst => mem_executedBy.mpr (hall st hst)⟩

/-! ## Recovery -/

/-- The state after a drain, with everything it did. -/
def PipelineState.drained (s : PipelineState) (run : DrainRun) (sent : List KafkaMessage) :
    PipelineState :=
  ((s.publish sent).execute (run.direct.flatMap DirectTurn.executed)).park run.parkFile

/-- The state after a batch that took everything. -/
def PipelineState.batched (s : PipelineState) (out : BatchRun) : PipelineState :=
  ((s.advance out.maxEventMs []).quarantine (out.dlq.map fun m => (0, m.value))).execute
    (executedBy out)

/-- The drain, the new start and the batch are steps. -/
theorem runsIn_recovered (h : RunsIn d U s) {args : DrainArgs} {env : DrainEnv} {run : DrainRun}
    (hhealthy : HealthyDrain d s.dlq args env) (hrun : drain args env (values s.dlq) = .ok run)
    {sent : List KafkaMessage}
    (hsent : sent.map KafkaMessage.value = run.produced.map fun p => some p.value)
    {batch : Frame} {benv : BatchEnv} {out : BatchRun}
    (hrows : batch.rows.Perm ((s.pending ++ sent).map (source d.spark)))
    (hout : processBatch d.conf benv none batch = .ok out) :
    RunsIn d U (((s.drained run sent).advance none (s.pending ++ sent)).batched out) := by
  have hU := h.runs.2
  have hdrain : Step d s (s.drained run sent) := by
    refine .drain s (fun p => List.prefix_rfl) hhealthy.codec hhealthy.fromIsoFormat
      hhealthy.dryRun hrun ?_ ?_ fun r hr => hr
    · intro m hm
      have hvalue := List.mem_map_of_mem (f := KafkaMessage.value) hm
      rw [hsent] at hvalue
      obtain ⟨p, hp, heq⟩ := List.mem_map.mp hvalue
      exact ⟨p, hp, heq.symm⟩
    · intro st hst
      exact List.mem_flatMap.mp hst
  have hrestart : Step d (s.drained run sent)
      ((s.drained run sent).advance none (s.pending ++ sent)) := .restart _
  have hperm : ((s.drained run sent).advance none (s.pending ++ sent)).pending.Perm
      ((s.pending ++ sent) ++ []) := by
    rw [List.append_nil]
    exact .refl _
  have hbatch := Step.of_batch (d := d) hperm hrows hout
  exact ((h.tail ⟨hdrain, hU⟩).tail ⟨hrestart, hU⟩).tail ⟨hbatch, hU⟩

/-- **Everything sound is in the tables** after a drain, a new start and a batch without trouble. -/
theorem visible_recovered (hlawful : Lawful d U)
    (hpolicy : d.conf.latePolicy = "dlq" ∨ d.conf.latePolicy = "process") (h : RunsIn d U s)
    {args : DrainArgs} {env : DrainEnv} {run : DrainRun} (hhealthy : HealthyDrain d s.dlq args env)
    (hrun : drain args env (values s.dlq) = .ok run)
    (hall : run.direct = run.lists.direct.map (directWriteOne env)) {sent : List KafkaMessage}
    (hsent : sent.map KafkaMessage.value = run.produced.map fun p => some p.value)
    {batch : Frame} {benv : BatchEnv} {out : BatchRun}
    (hrows : batch.rows.Perm ((s.pending ++ sent).map (source d.spark)))
    (hbenv : benv.Forall SinkEnv.Healthy) (hout : processBatch d.conf benv none batch = .ok out)
    {m : KafkaMessage} (hm : m ∈ s.raw ++ sent) (hvalue : m.value = some text)
    (hsound : Sound d text) (t : Table) :
    visible (((s.drained run sent).advance none (s.pending ++ sent)).batched out)
      (t, factKey d text t) = some (factRow d text t) := by
  obtain ⟨hruns, hU⟩ := h.runs
  have htraced := runs_traced hlawful.empty hruns
  have hdrained := drain_drained hrun hhealthy.dryRun
  have hreach := runsIn_recovered h hhealthy hrun hsent hrows hout
  -- what the batch took is written
  have hbatch : ∀ m ∈ s.pending ++ sent, ∀ text, m.value = some text → text ∈ U → Sound d text →
      visible (((s.drained run sent).advance none (s.pending ++ sent)).batched out)
        (t, factKey d text t) = some (factRow d text t) := by
    intro m hm text hvalue htext hsound
    have hwritten := written_of_healthy_batch hlawful hrows hbenv hout hm hvalue htext hsound
    exact visible_of_written hlawful hreach hvalue htext
      (hwritten.mono fun st hst => List.mem_append_right _ hst) t
  rcases List.mem_append.mp hm with hraw | hnew
  · have htext : text ∈ U := hU text (htraced.raw m hraw text hvalue)
    have hbuildable := hsound.buildable hlawful htext hvalue
    rcases settled_or_pending hpolicy hruns hraw with hpending | hwritten | ⟨e, he, henv⟩ | hskip
    · exact hbatch m (List.mem_append_left _ hpending) text hvalue htext hsound
    · rw [hlawful.tables] at hwritten
      refine visible_of_written hlawful hreach hvalue htext (hwritten.mono fun st hst => ?_) t
      exact List.mem_append_left _ (List.mem_append_left _ hst)
    · -- the entry is published again, or written directly
      have hpayload : e.lookup "original_payload" = some (.str text) :=
        henv.payload text hvalue (hsound.ne_empty hlawful.empty)
      rcases recovered_of_entry hhealthy htraced hdrained hall hlawful htext hsound he hpayload with
        ⟨p, hp, rfl⟩ | ⟨stmts, hkeys, hstmts⟩
      · obtain ⟨m', hm', hvalue'⟩ : ∃ m' ∈ sent, m'.value = some p.value := by
          have hmem := List.mem_map_of_mem (f := fun p : Produced => some p.value) hp
          rw [← hsent] at hmem
          exact List.mem_map.mp hmem
        exact hbatch m' (List.mem_append_right _ hm') p.value hvalue' htext hsound
      · obtain ⟨st, hst, rfl⟩ : ∃ st ∈ stmts, st.key = t :=
          List.mem_map.mp (hkeys ▸ (by cases t <;> decide : t ∈ allTables))
        obtain ⟨horigin, turn, hturn, hexec⟩ := hstmts st hst
        refine visible_of_statementOf hlawful hreach htext horigin ?_
        exact List.mem_append_left _ (List.mem_append_right _ (List.mem_flatMap.mpr
          ⟨turn, hturn, hexec⟩))
    · exact absurd hskip.2.2 (parseable_of_buildable hbuildable).2
  · obtain ⟨p, hp, heq⟩ : ∃ p ∈ run.produced, some p.value = some text := by
      have hmem := List.mem_map_of_mem (f := KafkaMessage.value) hnew
      rw [hsent, hvalue] at hmem
      exact List.mem_map.mp hmem
    have hoffered := produced_offered hlawful.empty htraced hdrained (fun p => List.prefix_rfl) hp
    rw [Option.some.inj heq] at hoffered
    exact hbatch m (List.mem_append_right _ hnew) text hvalue (hU text hoffered) hsound

/-- **Nothing is beyond recovery**: in every reachable state, a drain without trouble ends; and
after it, a new start and a batch without trouble that takes what is not committed, every message of
`trips.raw` with a sound text has its row in every table, and none is left to be read. -/
theorem pipeline_recovers (hlawful : Lawful d U)
    (hpolicy : d.conf.latePolicy = "dlq" ∨ d.conf.latePolicy = "process") (h : RunsIn d U s)
    {args : DrainArgs} {env : DrainEnv} (hhealthy : HealthyDrain d s.dlq args env) :
    ∃ run, drain args env (values s.dlq) = .ok run ∧ ∀ sent : List KafkaMessage,
      sent.map KafkaMessage.value = (run.produced.map fun p => some p.value) →
        ∀ batch benv out, batch.rows.Perm ((s.pending ++ sent).map (source d.spark)) →
          benv.Forall SinkEnv.Healthy → processBatch d.conf benv none batch = .ok out →
            let s' := ((s.drained run sent).advance none (s.pending ++ sent)).batched out
            RunsIn d U s' ∧ s'.pending = [] ∧ ∀ m ∈ s'.raw, ∀ text, m.value = some text →
              Sound d text → ∀ t, visible s' (t, factKey d text t) = some (factRow d text t) := by
  obtain ⟨run, hrun, hall⟩ := exists_healthy_drain hhealthy (runs_traced hlawful.empty h.runs.1)
  refine ⟨run, hrun, fun sent hsent batch benv out hrows hbenv hout => ?_⟩
  refine ⟨runsIn_recovered h hhealthy hrun hsent hrows hout, rfl, ?_⟩
  intro m hm text hvalue hsound t
  exact visible_recovered hlawful hpolicy h hhealthy hrun hall hsent hrows hbenv hout hm hvalue
    hsound t

/-- The producer has given the event up. -/
def sampleGivenUp : PipelineState :=
  (PipelineState.init.offer [fullText]).quarantine [(0, (build sampleDeployment.codec "host" 0
    fullText "timed out" stageProducer 5 none (some "trips.raw") none none 0).asdict)]

/-- A drain that reads the entry. -/
def sampleDrainEnv : DrainEnv where
  codec := sampleDeployment.codec
  intOfText _ := none
  repr _ := ""
  fromIsoFormat := sampleIso
  polls := [.message 0]
  produce _ := .ok ()
  delivery _ := .acked
  connect := .ok ()
  nowMs := 0
  execute _ _ := .ok ()
  openPark := .ok ()

/-- The drain of the one given-up event meets no trouble. -/
theorem healthyDrain_sample :
    HealthyDrain sampleDeployment sampleGivenUp.dlq ⟨0, 3, false⟩ sampleDrainEnv where
  codec := rfl
  fromIsoFormat := rfl
  dryRun := rfl
  limit := rfl
  maxReplays := by decide
  polls := by
    intro p
    by_cases hp : p = 0
    · subst hp
      decide
    · have hempty : values sampleGivenUp.dlq p = [] := by
        have hne : ¬0 = p := fun h => hp h.symm
        simp [values, sampleGivenUp, PipelineState.quarantine, PipelineState.offer,
          PipelineState.init, hne]
      rw [hempty]
      exact Nat.zero_le _
  noError := by simp [sampleDrainEnv]
  produce := fun _ => rfl
  delivery := fun _ => rfl
  connect := rfl
  execute := fun _ _ => rfl
  openPark := rfl

/-- The general result at an event the producer gave up. -/
theorem pipeline_recovers_sample :
    ∃ run, drain ⟨0, 3, false⟩ sampleDrainEnv (values sampleGivenUp.dlq) = .ok run ∧
      ∀ sent : List KafkaMessage,
        sent.map KafkaMessage.value = (run.produced.map fun p => some p.value) →
          ∀ batch benv out,
            batch.rows.Perm ((sampleGivenUp.pending ++ sent).map (source sampleDeployment.spark)) →
            benv.Forall SinkEnv.Healthy →
            processBatch sampleDeployment.conf benv none batch = .ok out →
              let s' := ((sampleGivenUp.drained run sent).advance none
                (sampleGivenUp.pending ++ sent)).batched out
              RunsIn sampleDeployment {fullText} s' ∧ s'.pending = [] ∧
                ∀ m ∈ s'.raw, ∀ text, m.value = some text → Sound sampleDeployment text →
                  ∀ t, visible s' (t, factKey sampleDeployment text t) =
                    some (factRow sampleDeployment text t) := by
  have hstep := Step.giveUp (d := sampleDeployment) .init 0 "host" fullText "timed out" 0 5
    (some "trips.raw")
  have hruns : Runs sampleDeployment .init := .of_start rfl
  have hreach : RunsIn sampleDeployment {fullText} sampleGivenUp :=
    runsIn_of_runs (hruns.tail hstep) fun text htext => List.mem_singleton.mp htext
  exact pipeline_recovers lawful_sample (Or.inl rfl) hreach healthyDrain_sample

end TripPipeline.Flow
