import TripPipeline.Streaming.Budget

/-!
# The retry count of a dead letter record

`DLQRecord.retry_count` is filled in at four places of the writer: 0 for the two kinds of rows that
are refused before any execution, 0 for a statement whose first execution is refused for good, and
`attempts + 1` for one whose retries are exhausted.

* `stmtTally_retryCount`: what the record of a statement says.
* `tellsAttempts_iff`: the counts are the numbers of executions iff no first execution raises a
  `PERMANENT` exception. Such a statement was executed once, and its record says 0.
-/

namespace TripPipeline.Streaming

open TripPipeline.Common TripPipeline.Lib

/-- The executions spent on what a record is about: a statement, or a row. -/
def spent (log : List Execution) (o : Origin) : ℕ :=
  match o.table with
  | some _ => log.countP fun x => decide (x.origin = o)
  | none => log.countP fun x => decide (x.row = o.row)

/-- Every record tells the number of executions. -/
def TellsAttempts (run : PartitionRun) : Prop :=
  ∀ o key value, SinkTuple.dlq o key value ∈ run.yields → value.retryCount = spent run.log o

/-- The first execution of the statement raises a `PERMANENT` exception. -/
def RefusedAtOnce (env : SinkEnv) (w : Work) : Prop :=
  ∃ e, env.outcome w.pos w.stmt.key 0 = .error e ∧ e.isInstance permanent = true

section counts

variable {env : SinkEnv} {conf : SinkConf} {rows : List StreamRow} {run : PartitionRun}

/-! ## The record of a statement -/

/-- `exc.attempts` of an exhausted loop is the number of its calls. -/
theorem attempts_eq_calls {w : Work} {attempts : ℕ} {last : Exc}
    (h : (retryTrial env conf w).result (attemptBudget (retryPolicy conf.retry)) 0 =
      .exhausted attempts last) : attempts = (retryTrial env conf w).calls := by
  unfold Trial.result at h
  cases hend : (retryTrial env conf w).ending with
  | success u => simp [hend] at h
  | escaped e => simp [hend] at h
  | gaveUp e =>
      simp only [hend, CallResult.exhausted.injEq, zero_add] at h
      simp [Trial.calls, hend, h.1]
  | spent e =>
      simp only [hend, CallResult.exhausted.injEq] at h
      rw [retryTrial] at hend ⊢
      rw [trial_spent hend, Nat.sub_add_cancel (attemptBudget_pos _), h.1]

/-- **What the record of a statement says**: 0 when its first execution was refused, and otherwise
the calls of its retry loop and one more. -/
theorem stmtTally_retryCount {w : Work} {q : Origin × PyVal × DLQRecord}
    (hq : q ∈ (stmtTally env conf w).quarantined) :
    q.1 = w.origin ∧ (RefusedAtOnce env w ∧ q.2.2.retryCount = 0 ∨
      Retried env w ∧ q.2.2.retryCount = (retryTrial env conf w).calls + 1) := by
  unfold stmtTally fastTally failure? at hq
  cases hout : env.outcome w.pos w.stmt.key 0 with
  | ok u => simp [hout] at hq
  | error e =>
      simp only [hout, Option.map_some, Option.getD_some, lateTally, Tally.add_quarantined,
        Tally.zero_quarantined, zero_add] at hq
      by_cases hperm : e.isInstance permanent = true
      · simp only [hperm, if_true, quarantineTally, Multiset.mem_singleton] at hq
        rw [hq]
        exact ⟨rfl, Or.inl ⟨⟨e, hout, hperm⟩, rfl⟩⟩
      · simp only [hperm, Bool.false_eq_true, if_false, retryTally, Tally.add_quarantined,
          Tally.zero_quarantined, zero_add] at hq
        cases hresult : (retryTrial env conf w).result
            (attemptBudget (retryPolicy conf.retry)) 0 with
        | returned u => simp [hresult, exhaustedTally] at hq
        | raised x => simp [hresult, exhaustedTally] at hq
        | exhausted attempts last =>
            simp only [hresult, exhaustedTally, quarantineTally, Multiset.mem_singleton] at hq
            rw [hq, ← attempts_eq_calls hresult]
            exact ⟨rfl, Or.inr ⟨⟨e, hout, by simpa using hperm⟩, by simp [sinkRecord, build]⟩⟩

/-- A statement that is refused at once leaves a record that says 0. -/
theorem exists_record_of_refused (conf : SinkConf) {w : Work} (h : RefusedAtOnce env w) :
    ∃ q ∈ (stmtTally env conf w).quarantined, q.1 = w.origin ∧ q.2.2.retryCount = 0 := by
  obtain ⟨e, hout, hperm⟩ := h
  refine ⟨(w.origin, (sinkRecord env conf w.origin w.row e.reason stageCassandraSink 0).key,
    sinkRecord env conf w.origin w.row e.reason stageCassandraSink 0), ?_, rfl, rfl⟩
  simp [stmtTally, fastTally, failure?, hout, lateTally, hperm, quarantineTally]

/-! ## The executions of a statement, and of a refused row -/

/-- A statement of the partition is one of a row of a chunk. -/
theorem mem_statements_iff {w : Work} :
    w ∈ statements env conf rows ↔ ∃ chunk ∈ chunks conf rows, ∃ item ∈ chunk,
      w ∈ rowWork conf (chunkTime env chunk) item := by
  simp only [statements, chunkWork, List.mem_flatMap]

/-- A statement is executed once, and in its retry loop when it is retried. -/
theorem timesExecuted_of_listed (hout : env.Listed) {w : Work} (hw : w ∈ statements env conf rows) :
    timesExecuted env conf rows w.origin =
      ((lateTrace env conf w).moments.filterMap Moment.execution?).length + 1 := by
  obtain ⟨pre, post, hsplit⟩ := List.append_of_mem hw
  exact timesExecuted_of_passes env conf hsplit fun v _ => not_escapes_of_listed env conf hout v

/-- A statement on the retry path is executed once more than its trial calls. -/
theorem timesExecuted_of_retried (hout : env.Listed) {w : Work}
    (hw : w ∈ statements env conf rows) (h : Retried env w) :
    timesExecuted env conf rows w.origin = (retryTrial env conf w).calls + 1 := by
  rw [timesExecuted_of_listed hout hw, executions_lateTrace env conf h, length_retryExecutions]

/-- A statement that is refused at once is executed once. -/
theorem timesExecuted_of_refused (hout : env.Listed) {w : Work}
    (hw : w ∈ statements env conf rows) (h : RefusedAtOnce env w) :
    timesExecuted env conf rows w.origin = 1 := by
  have hnot : ¬Retried env w := by
    rintro ⟨e, he, hperm⟩
    obtain ⟨e', he', hperm'⟩ := h
    rw [← Except.error.inj (he'.symm.trans he), hperm'] at hperm
    cases hperm
  simp [timesExecuted_of_listed hout hw, lateTrace_of_not_retried env conf hnot]

/-- The log has the executions of a statement. -/
theorem spent_origin (h : writePartition env conf rows = .ok run) (w : Work) :
    spent run.log w.origin = timesExecuted env conf rows w.origin := by
  rw [timesExecuted, executions_of_run env conf h]
  rfl

/-- A row that is refused has no executions. -/
theorem spent_row (h : writePartition env conf rows = .ok run) {item : StreamRow × ℕ}
    (hitem : item ∈ rows.zipIdx) (hnone : builtStatements conf item = []) :
    spent run.log ⟨item.2, none⟩ = 0 := by
  show run.log.countP _ = 0
  rw [← executions_of_run env conf h, List.countP_eq_zero]
  intro x hx hrow
  obtain ⟨w, hw, horigin⟩ := exists_statement_of_execution env conf hx
  have hbuilt := List.mem_map_of_mem (f := Work.origin) hw
  rw [statements_origin, List.mem_flatMap] at hbuilt
  obtain ⟨item', hitem', ho⟩ := hbuilt
  have hpos : item'.2 = item.2 := by
    rw [← mem_builtStatements_row conf ho, ← horigin]
    exact of_decide_eq_true hrow
  obtain rfl : item' = item := by
    rw [List.mem_zipIdx_iff_getElem?] at hitem hitem'
    rw [hpos, hitem] at hitem'
    exact Prod.ext (Option.some.inj hitem').symm hpos
  rw [hnone] at ho
  exact absurd ho List.not_mem_nil

/-- The record of a refused row says 0, and the row has no statements. -/
theorem buildTally_retryCount {ingestedAtMs : ℤ} {item : StreamRow × ℕ}
    {q : Origin × PyVal × DLQRecord}
    (hq : q ∈ (buildTally env conf ingestedAtMs item).quarantined) :
    q.1 = ⟨item.2, none⟩ ∧ q.2.2.retryCount = 0 ∧ builtStatements conf item = [] := by
  rw [← rowWork_origin conf ingestedAtMs]
  unfold buildTally at hq
  unfold rowWork
  cases hb : buildStatements item.1.asDict conf.tables ingestedAtMs with
  | ok stmts => simp [hb] at hq
  | error e =>
      simp only [hb] at hq
      split_ifs at hq
      · simp only [Tally.add_quarantined, quarantineTally, defectTally, Tally.zero_quarantined,
          add_zero, Multiset.mem_singleton] at hq
        rw [hq]
        exact ⟨rfl, rfl, rfl⟩
      · rw [quarantineTally, Multiset.mem_singleton] at hq
        rw [hq]
        exact ⟨rfl, rfl, rfl⟩

/-! ## All records -/

/-- **When the records tell the attempts.** -/
theorem tellsAttempts_iff_of_run (hout : env.Listed) (h : writePartition env conf rows = .ok run) :
    TellsAttempts run ↔ ∀ w ∈ statements env conf rows, ¬RefusedAtOnce env w := by
  constructor
  · intro htells w hw hrefused
    obtain ⟨chunk, hchunk, item, hitem, hmem⟩ := mem_statements_iff.mp hw
    obtain ⟨q, hq, horigin, hzero⟩ := exists_record_of_refused conf hrefused
    have hyield := (writePartition_dlq_iff h).mpr
      ⟨chunk, hchunk, item, hitem, Or.inr ⟨w, hmem, hq⟩⟩
    have hcount := htells _ _ _ hyield
    rw [horigin, hzero, spent_origin h, timesExecuted_of_refused hout hw hrefused] at hcount
    cases hcount
  · intro hnone o key value hyield
    obtain ⟨chunk, hchunk, item, hitem, hq⟩ :=
      (writePartition_dlq_iff h (q := (o, key, value))).mp hyield
    rcases hq with hq | ⟨w, hmem, hq⟩
    · obtain ⟨rfl, hzero, hbuilt⟩ := buildTally_retryCount hq
      have hrow : item ∈ rows.zipIdx := by
        rw [← flatten_batched conf.chunkSize rows.zipIdx]
        exact List.mem_flatten_of_mem hchunk hitem
      rw [spent_row h hrow hbuilt]
      exact hzero
    · have hw := mem_statements_iff.mpr ⟨chunk, hchunk, item, hitem, hmem⟩
      obtain ⟨rfl, ⟨hrefused, -⟩ | ⟨hretried, hcount⟩⟩ := stmtTally_retryCount hq
      · exact absurd hrefused (hnone w hw)
      · rw [spent_origin h, timesExecuted_of_retried hout hw hretried]
        exact_mod_cast hcount

/-- **The records tell how often a statement was executed** iff none was refused at once. -/
theorem tellsAttempts_iff (env : SinkEnv) (conf : SinkConf) (rows : List StreamRow)
    (hout : env.Listed) :
    ∃ run, writePartition env conf rows = .ok run ∧
      (TellsAttempts run ↔ ∀ w ∈ statements env conf rows, ¬RefusedAtOnce env w) := by
  obtain ⟨run, hrun⟩ := writePartition_of_settles env conf
    fun chunk _ item _ => rowSettles_of_listed env conf hout (chunkTime env chunk) item
  exact ⟨run, hrun, tellsAttempts_iff_of_run hout hrun⟩

end counts

/-- The general result at a sink that raises once. -/
theorem tellsAttempts_iff_flaky :
    ∃ run, writePartition flakyEnv sampleConf [sampleRow] = .ok run ∧
      (TellsAttempts run ↔
        ∀ w ∈ statements flakyEnv sampleConf [sampleRow], ¬RefusedAtOnce flakyEnv w) :=
  tellsAttempts_iff flakyEnv sampleConf [sampleRow] flakyEnv_listed

/-- A statement that is refused at once was executed, and its record says that it was not. -/
theorem refused_untold :
    refusingEnv.Listed ∧ ∃ run, writePartition refusingEnv sampleConf [sampleRow] = .ok run ∧
      ¬TellsAttempts run := by
  obtain ⟨run, hrun⟩ := writePartition_of_settles refusingEnv sampleConf
    fun chunk (_ : chunk ∈ chunks sampleConf [sampleRow]) item _ =>
      rowSettles_of_listed refusingEnv sampleConf refusingEnv_listed
        (chunkTime refusingEnv chunk) item
  refine ⟨refusingEnv_listed, run, hrun, ?_⟩
  rw [tellsAttempts_iff_of_run refusingEnv_listed hrun]
  intro hnone
  obtain ⟨w, hw⟩ := exists_sampleStatement refusingEnv sampleConf rfl
  exact hnone w hw ⟨_, rfl, rfl⟩

end TripPipeline.Streaming
