import TripPipeline.Streaming.Stats

/-!
# Tuning changes no outcome

The backoff schedule, the jitter, the chunk size and the concurrency are there to be varied. Two
evaluations of the writer that differ in them, and in their clocks and random draws, do the same to
the outside but for the times and the host (`tuning_neutral`): every row has the same view in both,
whatever chunk it is in, and a partition is the sum of its rows.
-/

namespace TripPipeline.Streaming

open TripPipeline.Common TripPipeline.Lib

/-! ## Knobs -/

/-- What may be tuned. -/
structure Knobs where
  backoffScheduleMs : List ℤ
  jitterRatio : ℚ
  chunkSize : ℤ
  /-- Goes to `execute_concurrent`, which gives one outcome per request, in request order, at every
  concurrency. -/
  concurrency : ℤ

/-- The configuration with other knobs and the same `max_attempts`. -/
def SinkConf.tune (conf : SinkConf) (k : Knobs) : SinkConf :=
  { conf with
    chunkSize := k.chunkSize
    retry := ⟨k.backoffScheduleMs, conf.retry.maxAttempts, k.jitterRatio⟩ }

/-- The statements have the same outcomes. Clocks, draws and hosts may differ. -/
structure SinkEnv.Repeats (env env' : SinkEnv) : Prop where
  outcome : env.outcome = env'.outcome
  codec : env.codec = env'.codec

/-- Two runs that differ in write times, timestamps and hosts only. -/
structure SameOutcomes (run run' : PartitionRun) : Prop where
  /-- The same statements are executed the same number of times. -/
  executions : (run.log.map (Execution.timeless id)).Perm (run'.log.map (Execution.timeless id))
  /-- The same records are yielded: all their fields agree but the timestamps and the host. -/
  records : ((run.yields.filterMap SinkTuple.record?).map (viewRecord id)).Perm
    ((run'.yields.filterMap SinkTuple.record?).map (viewRecord id))
  /-- The same counts and failure reasons are reported. -/
  stats : ∃ p p', run.yields.filterMap SinkTuple.stats? = [p] ∧
    run'.yields.filterMap SinkTuple.stats? = [p'] ∧ p.counts = p'.counts ∧
    p.retryStats.failureReasons = p'.retryStats.failureReasons

/-! ## Two runs -/

section runs

variable {env env' : SinkEnv} {conf : SinkConf}

/-- Tuning the knobs changes neither the rows nor the budget of a repeatable sink. -/
theorem alike_tune (h : env.Repeats env') (k k' : Knobs) :
    Alike env env' (conf.tune k) (conf.tune k') :=
  ⟨h.codec, rfl, rfl, rfl⟩

/-- Runs whose tallies look alike have the same outcomes. -/
theorem sameOutcomes_of_view {run run' : PartitionRun} {t t' : Tally} (h : Reports run t)
    (h' : Reports run' t') (hview : view id t = view id t') : SameOutcomes run run' := by
  refine ⟨?_, ?_, ?_⟩
  · have hexecutions := congrArg Tally.executions hview
    rw [← Multiset.coe_eq_coe, ← Multiset.map_coe, ← Multiset.map_coe, h.executions, h'.executions]
    exact hexecutions
  · have hquarantined := congrArg Tally.quarantined hview
    rw [← Multiset.coe_eq_coe, ← Multiset.map_coe, ← Multiset.map_coe, h.records, h'.records]
    exact hquarantined
  · have hcounts := congrArg Tally.counts hview
    have hreasons := congrArg Tally.reasons hview
    exact h.stats_eq h' hcounts hreasons

/-- The whole partition looks the same under all knobs. -/
theorem view_total_tune (h : env.Repeats env') (k k' : Knobs) (rows : List StreamRow) :
    view id ((chunks (conf.tune k) rows).map (chunkTally env (conf.tune k))).sum =
      view id ((chunks (conf.tune k') rows).map (chunkTally env' (conf.tune k'))).sum := by
  rw [view_total, view_total]
  refine congrArg List.sum (List.map_congr_left fun item _ => ?_)
  apply view_rowTally (alike_tune h k k') rfl
  intro t n
  rw [h.outcome]

/-- **Tuning knobs change no outcome.** -/
theorem tuning_neutral (conf : SinkConf) (hout : env.Listed) (h : env.Repeats env')
    (k k' : Knobs) (rows : List StreamRow) :
    ∃ run run', writePartition env (conf.tune k) rows = .ok run ∧
      writePartition env' (conf.tune k') rows = .ok run' ∧ SameOutcomes run run' := by
  have hout' : env'.Listed := by
    intro row t n e he
    apply hout row t n
    rw [h.outcome]
    exact he
  obtain ⟨run, hrun⟩ := writePartition_of_settles env (conf.tune k)
    fun chunk (_ : chunk ∈ chunks (conf.tune k) rows) item _ =>
      rowSettles_of_listed env (conf.tune k) hout (chunkTime env chunk) item
  obtain ⟨run', hrun'⟩ := writePartition_of_settles env' (conf.tune k')
    fun chunk (_ : chunk ∈ chunks (conf.tune k') rows) item _ =>
      rowSettles_of_listed env' (conf.tune k') hout' (chunkTime env' chunk) item
  exact ⟨run, run', hrun, hrun', sameOutcomes_of_view (reports_of_run hrun) (reports_of_run hrun')
    (view_total_tune h k k' rows)⟩

end runs

/-- The same outcomes an hour later, on another host. -/
def laterEnv : SinkEnv :=
  { flakyEnv with
    ingestedAtMs := fun _ => 3600000
    nowMs := fun _ => 3600000
    host := "other" }

/-- The flaky sink does the same again later. -/
theorem flakyEnv_repeats : flakyEnv.Repeats laterEnv := ⟨rfl, rfl⟩

/-- The two arms of the backoff experiment. -/
def backoffArm : Knobs := ⟨[1000, 2000, 4000], 0, 400, 48⟩

def controlArm : Knobs := ⟨[], 1 / 2, -3, 1⟩

/-- The general result at the two arms of the benchmark. -/
theorem tuning_neutral_arms :
    ∃ run run', writePartition flakyEnv (sampleConf.tune backoffArm) [sampleRow, sampleRow] =
        .ok run ∧
      writePartition laterEnv (sampleConf.tune controlArm) [sampleRow, sampleRow] = .ok run' ∧
      SameOutcomes run run' :=
  tuning_neutral sampleConf flakyEnv_listed flakyEnv_repeats backoffArm controlArm
    [sampleRow, sampleRow]

end TripPipeline.Streaming
