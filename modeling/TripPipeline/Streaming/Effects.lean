import TripPipeline.Streaming.Envelopes
import TripPipeline.Streaming.Timeline

/-!
# What a batch does to the outside

A batch writes to two places: statements to the serving tables, messages to `trips.dlq`. This module
says of both where they come from, so that a run of the whole pipeline need not look into a batch.

* `Quarantines`: the objects a batch may put on the DLQ topic, one constructor for each of the four
  ways a row gets there. Every message of a batch is one of them (`processBatch_quarantines`).
* `Performs`: a statement that an evaluation of the partition writer has executed, whether it ends
  or is cut short anywhere on its timeline. It is built from a row of the partition
  (`Performs.built`).
* `route_covered`: a row that is not routed has no event time, and the policy is `dlq`.
* `processBatch_settles`: the row lemma for runs. A row of a batch that ends normally has been
  written, or is quarantined, or has no event time.
* `processBatch_healthy`: when no execution fails, every row that can be built is written.
-/

namespace TripPipeline.Streaming

open TripPipeline.Common TripPipeline.Lib

/-! ## Statements of a row -/

/-- The statement is one of those built for the row, at some time. -/
def BuiltFrom (tables : List Table) (r : StreamRow) (st : Statement) : Prop :=
  ∃ ingestedAtMs stmts, buildStatements r.asDict tables ingestedAtMs = .ok stmts ∧ st ∈ stmts

/-- No statement can be built for the row. -/
def Refused (tables : List Table) (r : StreamRow) : Prop :=
  ∀ ingestedAtMs stmts, buildStatements r.asDict tables ingestedAtMs ≠ .ok stmts

/-- A row that is refused once is refused always. -/
theorem refused_of_error {tables : List Table} {r : StreamRow} {ingestedAtMs : ℤ} {e : Exc}
    (h : buildStatements r.asDict tables ingestedAtMs = .error e) : Refused tables r := by
  intro later stmts hstmts
  have htime := buildStatements_time r.asDict tables ingestedAtMs later
  rw [h, hstmts] at htime
  cases htime

/-- All statements of the row are in the list. -/
def Written (tables : List Table) (executed : List Statement) (r : StreamRow) : Prop :=
  ∃ ingestedAtMs stmts, buildStatements r.asDict tables ingestedAtMs = .ok stmts ∧
    ∀ st ∈ stmts, st ∈ executed

/-- What is written stays written as more is executed. -/
theorem Written.mono {tables : List Table} {executed more : List Statement} {r : StreamRow}
    (h : Written tables executed r) (hsub : ∀ st ∈ executed, st ∈ more) :
    Written tables more r := by
  obtain ⟨ingestedAtMs, stmts, hstmts, hall⟩ := h
  exact ⟨ingestedAtMs, stmts, hstmts, fun st hst => hsub st (hall st hst)⟩

/-! ## Routes -/

section routes

variable {conf : StreamConf} {mark : Option ℤ} {batch : Frame} {routes : Routes} {r : StreamRow}

/-- **The two shapes of a routed batch**: filtered by event time, or not. -/
theorem route_cases (h : route conf mark batch = .ok routes) :
    routes.bad = batch.where3 isUnparseable ∧
      ((routes.lateWrite = [] ∧ routes.good = parseable batch) ∨
        ∃ cutoff, conf.latePolicy ≠ "process" ∧
          routes.good = (parseable batch).where3 (isOnTime cutoff) ∧
          routes.lateWrite =
            if conf.latePolicy = "dlq" then (parseable batch).where3 (isLate cutoff) else []) := by
  unfold route at h
  rcases mark with _ | m
  · obtain rfl := Except.ok.inj h
    exact ⟨rfl, Or.inl ⟨rfl, rfl⟩⟩
  dsimp only at h
  by_cases hprocess : conf.latePolicy ≠ "process"
  · rw [if_pos hprocess] at h
    obtain ⟨cutoff, -, h⟩ := bind_eq_ok_iff.mp h
    by_cases hlate : ((parseable batch).where3 (isLate cutoff)).count ≠ 0
    · rw [if_pos hlate] at h
      obtain rfl := Except.ok.inj h
      exact ⟨rfl, Or.inr ⟨cutoff, hprocess, rfl, rfl⟩⟩
    · rw [if_neg hlate] at h
      obtain rfl := Except.ok.inj h
      exact ⟨rfl, Or.inl ⟨rfl, rfl⟩⟩
  · rw [if_neg hprocess] at h
    obtain rfl := Except.ok.inj h
    exact ⟨rfl, Or.inl ⟨rfl, rfl⟩⟩

/-- The filter keeps the rows that do not parse. -/
theorem mem_unparseable : r ∈ (batch.where3 isUnparseable).rows ↔
    r ∈ batch.rows ∧ r.unparseable = true := by
  rw [rows_bad, List.mem_filter]

/-- The rows that do not parse are routed to the parse stage. -/
theorem mem_bad (h : route conf mark batch = .ok routes) :
    r ∈ routes.bad.rows ↔ r ∈ batch.rows ∧ r.unparseable = true := by
  rw [(route_cases h).1, mem_unparseable]

/-- A good row is a row of the batch that parses. -/
theorem mem_good (h : route conf mark batch = .ok routes) (hr : r ∈ routes.good.rows) :
    r ∈ batch.rows ∧ r.unparseable = false := by
  rw [← mem_parseable]
  rcases (route_cases h).2 with ⟨-, hgood⟩ | ⟨cutoff, -, hgood, -⟩
  · rwa [hgood] at hr
  · rw [hgood] at hr
    exact where3_subset hr

/-- What is quarantined as late has an event time. -/
theorem mem_lateWrite_time (h : route conf mark batch = .ok routes)
    (hr : r ∈ routes.lateWrite.rows) :
    r ∈ batch.rows ∧ r.unparseable = false ∧ (∃ us, r.event.eventTime = some us) ∧
      conf.latePolicy = "dlq" := by
  rcases (route_cases h).2 with ⟨hlate, -⟩ | ⟨cutoff, -, -, hlate⟩
  · rw [hlate] at hr
    cases hr
  · rw [hlate] at hr
    by_cases hdlq : conf.latePolicy = "dlq"
    · rw [if_pos hdlq, Frame.rows_where3, mem_filter3, mem_parseable, isLate_eq_true_iff] at hr
      obtain ⟨⟨hmem, hparse⟩, us, hus, -⟩ := hr
      exact ⟨hmem, hparse, ⟨us, hus⟩, hdlq⟩
    · rw [if_neg hdlq] at hr
      cases hr

/-- A row that can be read, but has no event time, under the policy that looks at event times. -/
def Skipped (conf : StreamConf) (r : StreamRow) : Prop :=
  conf.latePolicy = "dlq" ∧ r.unparseable = false ∧ r.event.eventTime = none

/-- **A row that is not routed has no event time.** -/
theorem route_covered (h : route conf mark batch = .ok routes)
    (hpolicy : conf.latePolicy = "dlq" ∨ conf.latePolicy = "process") (hr : r ∈ batch.rows) :
    r ∈ routes.bad.rows ∨ r ∈ routes.lateWrite.rows ∨ r ∈ routes.good.rows ∨ Skipped conf r := by
  by_cases hparse : r.unparseable = true
  · exact Or.inl ((mem_bad h).mpr ⟨hr, hparse⟩)
  rw [Bool.not_eq_true] at hparse
  have hmem : r ∈ (parseable batch).rows := mem_parseable.mpr ⟨hr, hparse⟩
  right
  rcases (route_cases h).2 with ⟨-, hgood⟩ | ⟨cutoff, hprocess, hgood, hlate⟩
  · rw [hgood]
    exact Or.inr (Or.inl hmem)
  · have hdlq : conf.latePolicy = "dlq" := hpolicy.resolve_right hprocess
    rw [hgood, hlate, if_pos hdlq, Frame.rows_where3, Frame.rows_where3, isOnTime_eq, mem_filter3,
      mem_filter3]
    rcases hlt : isLate cutoff r with _ | late
    · exact Or.inr (Or.inr ⟨hdlq, hparse, isLate_eq_none_iff.mp hlt⟩)
    · cases late
      · exact Or.inr (Or.inl ⟨hmem, by simp [not3]⟩)
      · exact Or.inl ⟨hmem, rfl⟩

end routes

/-! ## DLQ messages -/

/-- The object is a DLQ message that a batch may write for one of its rows. -/
inductive Quarantines (conf : StreamConf) (batch : Frame) : Dict → Prop
  | unparseable {r : StreamRow} (now : ℤ) : r ∈ batch.rows → r.unparseable = true →
      Quarantines conf batch (toJsonStruct (unparseableRecord now r))
  | late {r : StreamRow} (now : ℤ) (cutoffText : String) : r ∈ batch.rows →
      r.unparseable = false → (∃ us, r.event.eventTime = some us) → conf.latePolicy = "dlq" →
      Quarantines conf batch (toJsonStruct (lateRecord now cutoffText r))
  /-- The build phase refuses the row. -/
  | refused {r : StreamRow} (env : SinkEnv) (o : Origin) (reason : String) : r ∈ batch.rows →
      r.unparseable = false → Refused conf.sink.tables r →
      Quarantines conf batch (sinkRecord env conf.sink o r reason stageParse 0).asdict
  /-- A statement of the row is given up. -/
  | givenUp {r : StreamRow} (env : SinkEnv) (o : Origin) (reason : String) (retryCount : ℕ) :
      r ∈ batch.rows → r.unparseable = false → ¬Refused conf.sink.tables r →
      Quarantines conf batch
        (sinkRecord env conf.sink o r reason stageCassandraSink retryCount).asdict

section records

variable {env : SinkEnv} {conf : SinkConf} {rows : List StreamRow} {run : PartitionRun}

/-- The record of a row the build phase refuses, or of a row one of whose statements is given
up. -/
def RecordFor (conf : SinkConf) (r : StreamRow) (o : Origin) (value : DLQRecord) : Prop :=
  (Refused conf.tables r ∧ ∃ env reason, value = sinkRecord env conf o r reason stageParse 0) ∨
    (¬Refused conf.tables r ∧ ∃ env reason retryCount,
      value = sinkRecord env conf o r reason stageCassandraSink retryCount)

/-- The record the build phase leaves is that of a refused row. -/
theorem recordFor_buildTally {ingestedAtMs : ℤ} {item : StreamRow × ℕ}
    {q : Origin × PyVal × DLQRecord}
    (hq : q ∈ (buildTally env conf ingestedAtMs item).quarantined) :
    q.1.row = item.2 ∧ Refused conf.tables item.1 ∧ RecordFor conf item.1 q.1 q.2.2 := by
  unfold buildTally at hq
  rcases hbuilt : buildStatements item.1.asDict conf.tables ingestedAtMs with e | stmts
  · have hrefused := refused_of_error hbuilt
    rw [hbuilt] at hq
    dsimp only at hq
    split_ifs at hq
    · rcases Multiset.mem_add.mp hq with hq | hq
      · obtain rfl := Multiset.mem_singleton.mp hq
        exact ⟨rfl, hrefused, Or.inl ⟨hrefused, env, _, rfl⟩⟩
      · exact absurd hq (Multiset.notMem_zero q)
    · obtain rfl := Multiset.mem_singleton.mp hq
      exact ⟨rfl, hrefused, Or.inl ⟨hrefused, env, _, rfl⟩⟩
  · rw [hbuilt] at hq
    exact absurd hq (Multiset.notMem_zero q)

/-- The statements of a row that join the work list are built from it. -/
theorem mem_rowWork {ingestedAtMs : ℤ} {item : StreamRow × ℕ} {w : Work}
    (hw : w ∈ rowWork conf ingestedAtMs item) :
    w.pos = item.2 ∧ w.row = item.1 ∧ BuiltFrom conf.tables item.1 w.stmt ∧
      ¬Refused conf.tables item.1 := by
  unfold rowWork at hw
  rcases hbuilt : buildStatements item.1.asDict conf.tables ingestedAtMs with e | stmts
  · rw [hbuilt] at hw
    cases hw
  · rw [hbuilt] at hw
    obtain ⟨st, hst, rfl⟩ := List.mem_map.mp hw
    exact ⟨rfl, rfl, ⟨_, _, hbuilt, hst⟩, fun h => h _ _ hbuilt⟩

/-- **Every yielded record is the record of a row**, and says why the row was not written. -/
theorem writePartition_recordFor (h : writePartition env conf rows = .ok run) {o : Origin}
    {key : PyVal} {value : DLQRecord} (hy : SinkTuple.dlq o key value ∈ run.yields) :
    ∃ item ∈ rows.zipIdx, o.row = item.2 ∧ RecordFor conf item.1 o value := by
  obtain ⟨-, -, hsettles, -⟩ := writePartition_tally env conf h
  obtain ⟨chunk, hchunk, item, hitem, hq⟩ :=
    (writePartition_dlq_iff h (q := (o, key, value))).mp hy
  have hmem : item ∈ rows.zipIdx := by
    rw [← flatten_batched conf.chunkSize rows.zipIdx]
    exact List.mem_flatten_of_mem hchunk hitem
  refine ⟨item, hmem, ?_⟩
  rcases hq with hq | ⟨w, hw, hq⟩
  · obtain ⟨hrow, -, hrecord⟩ := recordFor_buildTally hq
    exact ⟨hrow, hrecord⟩
  · obtain ⟨hpos, hrow, -, hbuildable⟩ := mem_rowWork hw
    rcases stmtTally_cases env conf (hsettles chunk hchunk item hitem w hw) with
      ⟨-, hnone⟩ | ⟨-, reason, n, hrec⟩
    · rw [hnone] at hq
      exact absurd hq (Multiset.notMem_zero _)
    · rw [hrec, Multiset.mem_singleton] at hq
      obtain ⟨rfl, -, rfl⟩ : o = w.origin ∧ _ ∧ value = _ := by simpa using hq
      rw [hrow]
      exact ⟨hpos, Or.inr ⟨hbuildable, env, reason, n, rfl⟩⟩

end records

section messages

variable {conf : StreamConf} {env : BatchEnv} {mark : Option ℤ} {batch : Frame} {out : BatchRun}

/-- **Every message of a batch is one of the four kinds.** -/
theorem processBatch_quarantines (h : processBatch conf env mark batch = .ok out) :
    ∀ m ∈ out.dlq, Quarantines conf batch m.value := by
  intro m hm
  by_cases hrows : batch.count = 0
  · rw [processBatch, if_pos hrows] at h
    obtain rfl := Except.ok.inj h
    cases hm
  have hdone := processBatch_completed h hrows
  have heval : ∀ (senv : SinkEnv) rows run, writePartition senv conf.sink rows = .ok run →
      ∀ o key value, SinkTuple.dlq o key value ∈ run.yields →
        ∃ r ∈ rows, RecordFor conf.sink r o value := by
    intro senv rows run hrun o key value hy
    obtain ⟨item, hitem, -, hrecord⟩ := writePartition_recordFor hrun hy
    exact ⟨item.1, List.fst_mem_of_mem_zipIdx hitem, hrecord⟩
  obtain ⟨reads, hgood, hreads, hdlq⟩ := hdone.saved_forall
    (P := fun rows run => ∀ o key value, SinkTuple.dlq o key value ∈ run.yields →
      ∃ r ∈ rows, RecordFor conf.sink r o value)
    (fun _ => heval _) (fun _ => heval _) (fun _ => heval _)
  rw [hdlq] at hm
  rcases List.mem_append.mp hm with hm | hm
  · -- the two frames of the driver
    rcases List.mem_append.mp hm with hm | hm
    · obtain ⟨r, hr, rfl⟩ := List.mem_map.mp hm
      obtain ⟨hmem, hbad⟩ := (mem_bad hdone.routed).mp hr
      exact .unparseable _ hmem hbad
    · obtain ⟨r, hr, rfl⟩ := List.mem_map.mp hm
      obtain ⟨hmem, hparse, htime, hpolicy⟩ := mem_lateWrite_time hdone.routed hr
      exact .late _ _ hmem hparse htime hpolicy
  · -- the records of the writer
    obtain ⟨⟨key, value⟩, hkv, rfl⟩ := List.mem_map.mp hm
    obtain ⟨y, hy, hsome⟩ := List.mem_filterMap.mp hkv
    obtain ⟨run, hrun, hyield⟩ := List.mem_flatMap.mp hy
    obtain ⟨read, hread, rfl⟩ := List.mem_map.mp hrun
    rcases y with ⟨o, key', value'⟩ | p
    · obtain ⟨rfl, rfl⟩ := Prod.mk.inj (Option.some.inj hsome)
      obtain ⟨r, hr, hrecord⟩ := hreads read hread _ _ _ hyield
      have hrgood : r ∈ out.routes.good.rows := by
        rw [← hgood]
        exact List.mem_flatten_of_mem (List.mem_map_of_mem hread) hr
      obtain ⟨hmem, hparse⟩ := mem_good hdone.routed hrgood
      rcases hrecord with ⟨hrefused, senv, reason, rfl⟩ | ⟨hbuildable, senv, reason, n, rfl⟩
      · exact .refused senv o reason hmem hparse hrefused
      · exact .givenUp senv o reason n hmem hparse hbuildable
    · cases hsome

/-- Every message is the envelope of a row. -/
theorem Quarantines.envelope {value : Dict} (h : Quarantines conf batch value) :
    ∃ r ∈ batch.rows, Envelope r value := by
  cases h with
  | unparseable now hr _ => exact ⟨_, hr, envelope_toJsonStruct rfl rfl rfl⟩
  | late now text hr _ _ _ => exact ⟨_, hr, envelope_toJsonStruct rfl rfl rfl⟩
  | @refused r senv o reason hr _ _ =>
      have hrecord : RecordOf batch.rows (sinkRecord senv conf.sink o r reason stageParse 0).key
          (sinkRecord senv conf.sink o r reason stageParse 0) :=
        ⟨r, hr, senv, conf.sink, o, reason, stageParse, 0, rfl, rfl⟩
      exact hrecord.envelope
  | @givenUp r senv o reason n hr _ _ =>
      have hrecord : RecordOf batch.rows
          (sinkRecord senv conf.sink o r reason stageCassandraSink n).key
          (sinkRecord senv conf.sink o r reason stageCassandraSink n) :=
        ⟨r, hr, senv, conf.sink, o, reason, stageCassandraSink, n, rfl, rfl⟩
      exact hrecord.envelope

end messages

/-! ## Statements -/

/-- An evaluation of the partition writer, run to some point of its timeline, has executed the
statement. -/
def Performs (conf : SinkConf) (rows : List StreamRow) (st : Statement) : Prop :=
  ∃ env n, ∃ x ∈ ((timeline env conf rows).moments.take n).filterMap Moment.execution?,
    x.ok = true ∧ x.statement = st

section statements

variable {conf : SinkConf} {rows : List StreamRow} {env : SinkEnv}

/-- An execution of the retry path of a statement is an execution of it. -/
theorem statement_of_lateTrace {w : Work} {m : Moment}
    (hm : m ∈ (lateTrace env conf w).moments) {x : Execution} (hx : m.execution? = some x) :
    x.statement = w.stmt := by
  unfold lateTrace at hm
  rcases hf : failure? env w with _ | f
  · rw [hf] at hm
    cases hm
  · obtain rfl := failure?_fst hf
    rw [hf] at hm
    simp only [Option.map_some, Option.getD_some, retryTrace] at hm
    split_ifs at hm
    · cases hm
    · obtain ⟨beat, hbeat, rfl⟩ := List.mem_map.mp hm
      have hmem : x ∈ retryExecutions env conf f.1 := by
        rw [← retryCall_executions]
        exact List.mem_filterMap.mpr ⟨beat, hbeat, hx⟩
      exact (mem_retryExecutions env conf hmem).2.1

/-- What is executed on the timeline is built from a row. -/
theorem builtFrom_of_timeline {x : Execution}
    (hx : x ∈ (timeline env conf rows).moments.filterMap Moment.execution?) :
    ∃ r ∈ rows, BuiltFrom conf.tables r x.statement := by
  obtain ⟨m, hm, hexec⟩ := List.mem_filterMap.mp hx
  rw [timeline_eq] at hm
  obtain ⟨part, hpart, hm⟩ := Trace.mem_all hm
  obtain ⟨chunk, hchunk, hpart⟩ := List.mem_flatMap.mp hpart
  have hwork : ∀ w ∈ chunkWork env conf chunk, ∃ r ∈ rows, BuiltFrom conf.tables r w.stmt := by
    intro w hw
    obtain ⟨item, hitem, hw⟩ := List.mem_flatMap.mp hw
    obtain ⟨-, -, hbuilt, -⟩ := mem_rowWork hw
    have hmem : item ∈ rows.zipIdx := by
      rw [← flatten_batched conf.chunkSize rows.zipIdx]
      exact List.mem_flatten_of_mem hchunk hitem
    exact ⟨item.1, List.fst_mem_of_mem_zipIdx hmem, hbuilt⟩
  rcases List.mem_cons.mp hpart with rfl | hpart
  · obtain ⟨w, hw, rfl⟩ := List.mem_map.mp hm
    obtain rfl := Option.some.inj hexec
    exact hwork w hw
  · obtain ⟨w, hw, rfl⟩ := List.mem_map.mp hpart
    rw [statement_of_lateTrace hm hexec]
    exact hwork w hw

/-- **Nothing is executed that is not built from a row**, however far an evaluation gets. -/
theorem Performs.built {st : Statement} (h : Performs conf rows st) :
    ∃ r ∈ rows, BuiltFrom conf.tables r st := by
  obtain ⟨env, n, x, hx, -, rfl⟩ := h
  obtain ⟨m, hm, hexec⟩ := List.mem_filterMap.mp hx
  exact builtFrom_of_timeline
    (List.mem_filterMap.mpr ⟨m, List.mem_of_mem_take hm, hexec⟩)

/-- An evaluation that ends has performed what its log says. -/
theorem performs_of_run {run : PartitionRun} (h : writePartition env conf rows = .ok run)
    {x : Execution} (hx : x ∈ run.log) (hok : x.ok = true) : Performs conf rows x.statement := by
  have htimeline := writePartition_timeline env conf rows
  rw [h] at htimeline
  obtain ⟨-, hlog⟩ := htimeline
  refine ⟨env, (timeline env conf rows).moments.length, x, ?_, hok, rfl⟩
  rw [List.take_length, ← hlog]
  exact hx

end statements

/-! ## The evaluations of a batch -/

section evaluations

variable {conf : SinkConf} {Q : SinkEnv → Prop}

/-- Every environment an action may meet has the property. -/
def Access.Forall (Q : SinkEnv → Prop) (a : Access) : Prop := Q a.env ∧ ∀ env ∈ a.discarded, Q env

/-- Every evaluation of the block so far ran in an environment with the property. -/
def Block.EvaluatedIn (conf : SinkConf) (Q : SinkEnv → Prop) (b : Block) : Prop :=
  ∀ run ∈ b.evaluations, ∃ env, Q env ∧ writePartition env conf b.rows = .ok run

/-- Reading a partition keeps what is known of its evaluations. -/
theorem read_evaluatedIn {a : Access} (ha : a.Forall Q) {b : Block} (hb : b.EvaluatedIn conf Q)
    {r : PartitionRun × Block} (h : b.read conf a = .ok r) : r.2.EvaluatedIn conf Q := by
  unfold Block.read at h
  dsimp only at h
  split at h
  · obtain rfl := Except.ok.inj h
    exact hb
  · obtain ⟨run, hrun, h⟩ := bind_eq_ok_iff.mp h
    obtain rfl := Except.ok.inj h
    intro run' hrun'
    rcases List.mem_append.mp hrun' with hrun' | hrun'
    · rcases List.mem_append.mp hrun' with hrun' | hrun'
      · exact hb run' hrun'
      · -- an evaluation whose result was lost
        obtain ⟨env, henv, hsome⟩ := List.mem_filterMap.mp hrun'
        rcases hwrite : writePartition env conf b.rows with e | lost
        · rw [hwrite] at hsome
          cases hsome
        · rw [hwrite] at hsome
          obtain rfl := Option.some.inj hsome
          exact ⟨env, ha.2 env henv, hwrite⟩
    · obtain rfl := List.mem_singleton.mp hrun'
      exact ⟨a.env, ha.1, hrun⟩

/-- Reading all partitions keeps what is known of their evaluations. -/
theorem readAll_evaluatedIn {access : ℕ → Access} (ha : ∀ p, (access p).Forall Q)
    {blocks : List Block} (hb : ∀ b ∈ blocks, b.EvaluatedIn conf Q)
    {reads : List (PartitionRun × Block)} (h : readAll conf access blocks = .ok reads) :
    ∀ b ∈ reads.map Prod.snd, b.EvaluatedIn conf Q := by
  intro b hmem
  obtain ⟨r, hr, rfl⟩ := List.mem_map.mp hmem
  obtain ⟨b, hb', hread⟩ := exists_of_mem_mapM h hr
  exact read_evaluatedIn (ha b.2) (hb b.1 (List.fst_mem_of_mem_zipIdx hb')) hread

end evaluations

section batch

variable {conf : StreamConf} {env : BatchEnv} {mark : Option ℤ} {batch : Frame} {out : BatchRun}

/-- Every environment a batch may meet has the property. -/
structure BatchEnv.Forall (Q : SinkEnv → Prop) (env : BatchEnv) : Prop where
  collectStats : ∀ p, (env.collectStats p).Forall Q
  countDlq : ∀ p, (env.countDlq p).Forall Q
  saveDlq : ∀ p, (env.saveDlq p).Forall Q

/-- **The evaluations of a batch** ran in environments the batch met. -/
theorem processBatch_evaluatedIn {Q : SinkEnv → Prop} (henv : env.Forall Q)
    (h : processBatch conf env mark batch = .ok out) :
    ∀ b ∈ out.blocks, b.EvaluatedIn conf.sink Q := by
  by_cases hrows : batch.count = 0
  · obtain ⟨-, -, hblocks⟩ := processBatch_empty h hrows
    rw [hblocks]
    intro b hb
    cases hb
  obtain ⟨collected, counted, hcollected, hcounted, hlast⟩ :=
    (processBatch_completed h hrows).actions
  have h₀ : ∀ b ∈ out.routes.good.map fun rows => (⟨rows, none, []⟩ : Block),
      b.EvaluatedIn conf.sink Q := by
    intro b hb run hrun
    obtain ⟨rows, -, rfl⟩ := List.mem_map.mp hb
    cases hrun
  have h₁ := readAll_evaluatedIn henv.collectStats h₀ hcollected
  have h₂ := readAll_evaluatedIn henv.countDlq h₁ hcounted
  rcases hlast with ⟨-, -, hblocks⟩ | ⟨saved, hsaved, -, hblocks⟩
  · rw [hblocks]
    exact h₂
  · rw [hblocks]
    exact readAll_evaluatedIn henv.saveDlq h₂ hsaved

/-- An evaluation of a batch is a run of the writer over its partition. -/
theorem exists_writePartition (h : processBatch conf env mark batch = .ok out) {b : Block}
    (hb : b ∈ out.blocks) {run : PartitionRun} (hrun : run ∈ b.evaluations) :
    ∃ senv, writePartition senv conf.sink b.rows = .ok run := by
  have hall : env.Forall fun _ => True := by
    constructor <;> exact fun p => ⟨trivial, fun _ _ => trivial⟩
  obtain ⟨senv, -, hwrite⟩ := processBatch_evaluatedIn hall h b hb run hrun
  exact ⟨senv, hwrite⟩

/-- The statement was executed by an evaluation that ended. -/
def Executed (out : BatchRun) (st : Statement) : Prop :=
  ∃ b ∈ out.blocks, ∃ run ∈ b.evaluations, ∃ x ∈ run.log, x.ok = true ∧ x.statement = st

/-- What a batch executed, one of its good partitions performed. -/
theorem Executed.performs (h : processBatch conf env mark batch = .ok out) {st : Statement}
    (hst : Executed out st) : ∃ rows ∈ out.routes.good, Performs conf.sink rows st := by
  obtain ⟨b, hb, run, hrun, x, hx, hok, rfl⟩ := hst
  obtain ⟨senv, hwrite⟩ := exists_writePartition h hb hrun
  refine ⟨b.rows, ?_, performs_of_run hwrite hx hok⟩
  rw [← blocks_of_processBatch h]
  exact List.mem_map_of_mem hb

/-- A message of the batch is an envelope of the row. -/
def QuarantinedRow (out : BatchRun) (r : StreamRow) : Prop :=
  ∃ m ∈ out.dlq, Envelope r m.value

/-- The records of the writer that carry a row's payload are envelopes of it. -/
theorem envelope_of_payload {r : StreamRow} {senv : SinkEnv} {sconf : SinkConf} {o : Origin}
    {reason stage : String} {retryCount : ℕ} {codec : JsonCodec} {r' : StreamRow}
    (h : (sinkRecord senv sconf o r' reason stage retryCount).originalPayload = rowJson codec r) :
    Envelope r (sinkRecord senv sconf o r' reason stage retryCount).asdict := by
  refine ⟨rfl, ⟨stage, rfl⟩, ?_⟩
  intro text htext hne
  have hpayload : rowJson codec r = text := by
    rw [rowJson, htext]
    exact if_pos hne
  rw [← hpayload, ← h]
  rfl

/-- The messages of the routes are on the DLQ topic when the batch ends. -/
theorem mem_dlq_of_messages (h : Completed conf env mark batch out) {m : DlqMessage}
    (hm : m ∈ out.routes.messages env) : m ∈ out.dlq := by
  obtain ⟨_, _, -, -, hlast⟩ := h.actions
  rcases hlast with ⟨-, hdlq, -⟩ | ⟨saved, -, hdlq, -⟩
  · rw [hdlq]
    exact hm
  · rw [hdlq]
    exact List.mem_append_left _ hm

/-- A record written for a row is an envelope of it. -/
theorem QuarantineWritten.quarantinedRow (h : processBatch conf env mark batch = .ok out)
    {b : Block} (hb : b ∈ out.blocks) {item : StreamRow × ℕ} (hq : QuarantineWritten out b item) :
    QuarantinedRow out item.1 := by
  obtain ⟨run, hrun, o, key, value, codec, hyield, -, hpayload, hdlq⟩ := hq
  obtain ⟨senv, hwrite⟩ := exists_writePartition h hb hrun
  obtain ⟨item', -, -, hrecord⟩ := writePartition_recordFor hwrite hyield
  refine ⟨_, hdlq, ?_⟩
  rcases hrecord with ⟨-, senv', reason, rfl⟩ | ⟨-, senv', reason, n, rfl⟩
  · exact envelope_of_payload hpayload
  · exact envelope_of_payload hpayload

/-- **A row of a batch that ends normally** has been written in full, or an envelope of it is on the
DLQ topic, or it was skipped. -/
theorem processBatch_settles (h : processBatch conf env mark batch = .ok out)
    (hpolicy : conf.latePolicy = "dlq" ∨ conf.latePolicy = "process") {r : StreamRow}
    (hr : r ∈ batch.rows) :
    (∃ ingestedAtMs stmts, buildStatements r.asDict conf.sink.tables ingestedAtMs = .ok stmts ∧
        ∀ st ∈ stmts, Executed out st) ∨ QuarantinedRow out r ∨ Skipped conf r := by
  have hrows : batch.count ≠ 0 := Nat.ne_of_gt (List.length_pos_of_mem hr)
  have hdone := processBatch_completed h hrows
  rcases route_covered hdone.routed hpolicy hr with hbad | hlate | hwriter | hskipped
  · have hwritten := mem_dlq_of_messages hdone (List.mem_append_left _ (List.mem_map_of_mem hbad))
    exact Or.inr (Or.inl ⟨_, hwritten, envelope_toJsonStruct rfl rfl rfl⟩)
  · have hwritten := mem_dlq_of_messages hdone (List.mem_append_right _ (List.mem_map_of_mem hlate))
    exact Or.inr (Or.inl ⟨_, hwritten, envelope_toJsonStruct rfl rfl rfl⟩)
  · rw [← blocks_of_processBatch h] at hwriter
    obtain ⟨rows, hrowsMem, hmem⟩ := List.mem_flatten.mp hwriter
    obtain ⟨b, hb, rfl⟩ := List.mem_map.mp hrowsMem
    obtain ⟨pos, hpos⟩ := List.mem_iff_getElem?.mp hmem
    have hitem : (r, pos) ∈ b.rows.zipIdx := List.mk_mem_zipIdx_iff_getElem?.mpr hpos
    rcases settled_of_processBatch h hb hitem with ⟨run, hrun, hfull⟩ | hquarantined
    · obtain ⟨ingestedAtMs, stmts, hstmts, hall⟩ := hfull
      refine Or.inl ⟨ingestedAtMs, stmts, hstmts, fun st hst => ?_⟩
      obtain ⟨x, hx, -, hstatement, hok⟩ := hall st hst
      exact ⟨b, hb, run, hrun, x, hx, hok, hstatement⟩
    · exact Or.inr (Or.inl (hquarantined.quarantinedRow h hb))
  · exact Or.inr (Or.inr hskipped)

end batch

/-! ## Healthy batches -/

/-- No execution fails. -/
def SinkEnv.Healthy (env : SinkEnv) : Prop := ∀ row t n, env.outcome row t n = .ok ()

section healthy

variable {conf : StreamConf} {env : BatchEnv} {mark : Option ℤ} {batch : Frame} {out : BatchRun}

/-- A healthy sink raises nothing, hence nothing unlisted. -/
theorem SinkEnv.Healthy.listed {env : SinkEnv} (h : env.Healthy) : env.Listed := by
  intro row t n e he
  rw [h] at he
  cases he

/-- When no execution fails, only refused rows leave a record. -/
theorem writePartition_healthy {env : SinkEnv} {conf : SinkConf} {rows : List StreamRow}
    {run : PartitionRun} (h : writePartition env conf rows = .ok run) (henv : env.Healthy)
    {o : Origin} {key : PyVal} {value : DLQRecord} (hy : SinkTuple.dlq o key value ∈ run.yields) :
    ∃ item ∈ rows.zipIdx, o.row = item.2 ∧ Refused conf.tables item.1 := by
  obtain ⟨chunk, hchunk, item, hitem, hq⟩ :=
    (writePartition_dlq_iff h (q := (o, key, value))).mp hy
  have hmem : item ∈ rows.zipIdx := by
    rw [← flatten_batched conf.chunkSize rows.zipIdx]
    exact List.mem_flatten_of_mem hchunk hitem
  rcases hq with hq | ⟨w, -, hq⟩
  · obtain ⟨hrow, hrefused, -⟩ := recordFor_buildTally hq
    exact ⟨item, hmem, hrow, hrefused⟩
  · -- a statement that succeeds at once leaves none
    have hnone : (stmtTally env conf w).quarantined = 0 := by
      simp [stmtTally, fastTally, failure?, henv w.pos w.stmt.key 0]
    rw [hnone] at hq
    exact absurd hq (Multiset.notMem_zero _)

/-- **When no execution fails, every row that can be built is written.** -/
theorem processBatch_healthy (h : processBatch conf env mark batch = .ok out)
    (henv : env.Forall SinkEnv.Healthy) {r : StreamRow} (hr : r ∈ out.routes.good.rows)
    (hbuildable : ¬Refused conf.sink.tables r) :
    ∃ ingestedAtMs stmts, buildStatements r.asDict conf.sink.tables ingestedAtMs = .ok stmts ∧
      ∀ st ∈ stmts, Executed out st := by
  have hgood := blocks_of_processBatch h
  rw [← hgood] at hr
  obtain ⟨rows, hrows, hmem⟩ := List.mem_flatten.mp hr
  obtain ⟨b, hb, rfl⟩ := List.mem_map.mp hrows
  obtain ⟨pos, hpos⟩ := List.mem_iff_getElem?.mp hmem
  have hitem : (r, pos) ∈ b.rows.zipIdx := List.mk_mem_zipIdx_iff_getElem?.mpr hpos
  rcases settled_of_processBatch h hb hitem with ⟨run, hrun, hfull⟩ | hquarantined
  · obtain ⟨ingestedAtMs, stmts, hstmts, hall⟩ := hfull
    refine ⟨ingestedAtMs, stmts, hstmts, fun st hst => ?_⟩
    obtain ⟨x, hx, -, hstatement, hok⟩ := hall st hst
    exact ⟨b, hb, run, hrun, x, hx, hok, hstatement⟩
  · obtain ⟨run, hrun, o, key, value, -, hyield, hrow, -, -⟩ := hquarantined
    obtain ⟨senv, hhealthy, hwrite⟩ := processBatch_evaluatedIn henv h b hb run hrun
    obtain ⟨item, hitem', hrow', hrefused⟩ := writePartition_healthy hwrite hhealthy hyield
    have hsame : b.rows[pos]? = some item.1 := by
      rw [show pos = item.2 from hrow.symm.trans hrow']
      exact List.mk_mem_zipIdx_iff_getElem?.mp hitem'
    obtain rfl := Option.some.inj (hpos.symm.trans hsame)
    exact absurd hrefused hbuildable

/-- **When no execution fails and every row can be built**, the writer leaves no record. -/
theorem processBatch_healthy_dlq (h : processBatch conf env mark batch = .ok out)
    (henv : env.Forall SinkEnv.Healthy)
    (hbuildable : ∀ r ∈ out.routes.good.rows, ¬Refused conf.sink.tables r) :
    out.dlq = out.routes.messages env := by
  by_cases hrows : batch.count = 0
  · rw [processBatch, if_pos hrows] at h
    obtain rfl := Except.ok.inj h
    rfl
  have heval : ∀ {senv : SinkEnv}, senv.Healthy → ∀ rows run,
      writePartition senv conf.sink rows = .ok run →
        (∀ r ∈ rows, ¬Refused conf.sink.tables r) →
          ∀ o key value, SinkTuple.dlq o key value ∉ run.yields := by
    intro senv hhealthy rows run hrun hall o key value hyield
    obtain ⟨item, hitem, -, hrefused⟩ := writePartition_healthy hrun hhealthy hyield
    exact hall item.1 (List.fst_mem_of_mem_zipIdx hitem) hrefused
  obtain ⟨reads, hgood, hreads, hdlq⟩ := (processBatch_completed h hrows).saved_forall
    (P := fun rows run => (∀ r ∈ rows, ¬Refused conf.sink.tables r) →
      ∀ o key value, SinkTuple.dlq o key value ∉ run.yields)
    (fun p => heval (henv.collectStats p).1) (fun p => heval (henv.countDlq p).1)
    fun p => heval (henv.saveDlq p).1
  have hnone : dlqRows (reads.map Prod.fst) = [] := by
    refine List.filterMap_eq_nil_iff.mpr fun y hy => ?_
    obtain ⟨run, hrun, hyield⟩ := List.mem_flatMap.mp hy
    obtain ⟨read, hread, rfl⟩ := List.mem_map.mp hrun
    have hall : ∀ r ∈ read.2.rows, ¬Refused conf.sink.tables r := by
      intro r hr
      refine hbuildable r ?_
      rw [← hgood]
      exact List.mem_flatten_of_mem (List.mem_map_of_mem hread) hr
    cases y with
    | dlq o key value => exact absurd hyield (hreads read hread hall o key value)
    | stats p => rfl
  rw [hdlq, hnone, List.map_nil, List.append_nil]

end healthy

end TripPipeline.Streaming
