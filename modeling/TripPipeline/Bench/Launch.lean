import TripPipeline.Bench.Reconcile
import TripPipeline.Common.Retry

/-!
# Scenario processes and the reports they leave

`throughput_sweep` and `chaos_suite` start `bench/run_scenario.py` as a process and read the report
file of its run id. The file is found by its name: what it holds may be older than the process.

* `ScenarioReport` has the entries of the report that the two of them read. Its reconciliation is
  one that `build_report` computes, and names no negative loss (`buildReport_nonneg`).
* `Files.run` is what a process does to the files, `Files.load` what is read afterwards.
* `apply_eq_report_iff`: a report that is there is the one the process wrote, or one from before.
-/

namespace TripPipeline.Bench

open TripPipeline.Common TripPipeline.Lib

/-! ## Reports -/

/-- A reconciliation as `build_report` writes it. -/
abbrev WrittenReconciliation := {rec : Reconciliation // 0 ≤ rec.unaccountedSilentLoss}

/-- `"silent_loss_pct"`. -/
def Reconciliation.silentLossPct (rec : Reconciliation) : Option ℚ :=
  if rec.expectedDistinctEvents = 0 then none
  else some (pyRound (100 * rec.unaccountedSilentLoss / rec.expectedDistinctEvents) 4)

/-- The producer's own report; every entry is missing when there is none. -/
structure ProducerReport where
  rateAttainmentPct : Option ℚ
  achievedRate : Option ℚ
  acked : Option ℤ
  librdkafkaTxretries : Option ℤ
  librdkafkaReqTimeouts : Option ℤ

/-- The report of the stream job; every entry is missing when there is none. -/
structure StreamReport where
  rowsWrittenCassandra : Option ℤ
  writeAmplification : Option ℚ
  batchSecondsP95 : Option ℚ
  meanE2eLatencyMsSampled : Option ℚ
  avgRetriesToSuccessAllWrites : Option ℚ
  writesNeedingRetry : Option ℤ
  avgRetriesAmongRetriedWrites : Option ℚ
  cassandraWriteRetries : Option ℤ
  failureReasons : Option (Counter String)

/-- The entry `"lag"`. -/
structure LagReport where
  maxObserved : ℤ
  final : Option ℤ
  longestMonotonicGrowthRun : ℕ
  drained : Bool
  drainSeconds : ℚ

/-- The entry `"fault"`. -/
structure FaultReport where
  recoverySeconds : Option ℚ
  recovered : Option Bool
  targetHealthySeconds : Option ℚ

/-- The report of a scenario. -/
structure ScenarioReport where
  runId : String
  producer : ProducerReport
  stream : StreamReport
  reconciliation : Option WrittenReconciliation
  lag : LagReport
  fault : Option FaultReport

/-- No reconciliation names a negative loss. -/
theorem buildReport_nonneg {loads : String → Except Exc PyVal} {scenario : Scenario} {o : Readings}
    {rec : Reconciliation} (h : buildReport loads scenario o = .ok rec) :
    0 ≤ rec.unaccountedSilentLoss := by
  obtain ⟨_, -, h⟩ := bind_eq_ok_iff.mp h
  obtain ⟨_, -, h⟩ := bind_eq_ok_iff.mp h
  obtain ⟨_, -, h⟩ := bind_eq_ok_iff.mp h
  obtain ⟨_, -, h⟩ := bind_eq_ok_iff.mp h
  obtain rfl := Except.ok.inj h
  exact le_max_left _ _

/-! ## Files and processes -/

/-- What is at the path of a report. -/
inductive ReportFile where
  | missing
  /-- The text ends early; `error` is what the decoder says. -/
  | corrupt (error : String)
  | report (r : ScenarioReport)

/-- What a process has done to its report file when it ends. -/
inductive Effect where
  | wrote (r : ScenarioReport)
  | truncated (error : String)
  | untouched

/-- How a process ends, within its timeout. -/
structure Outcome where
  returncode : ℤ
  effect : Effect

/-- The file after the process. -/
def Effect.apply : Effect → ReportFile → ReportFile
  | .wrote r, _ => .report r
  | .truncated error, _ => .corrupt error
  | .untouched, file => file

/-- The files by their paths. -/
abbrev Files := String → ReportFile

/-- `subprocess.run(cmd)`, whose process writes to `path` only. -/
def Files.run (files : Files) (path : String) (o : Outcome) : Files :=
  Function.update files path (o.effect.apply (files path))

/-- `json.load(open(path))`, or the text of the error. -/
def Files.load (files : Files) (path : String) : Except String ScenarioReport :=
  match files path with
  | .missing => .error ("[Errno 2] No such file or directory: '" ++ path ++ "'")
  | .corrupt error => .error error
  | .report r => .ok r

/-- `os.path.join(RESULTS, f"{run_id}_scenario.json")`. -/
def reportPath (results runId : String) : String := results ++ "/" ++ runId ++ "_scenario.json"

section load

variable {files : Files} {path : String} {o : Outcome} {r : ScenarioReport}

/-- A report is at the path when the process wrote it, or left the old one alone. -/
theorem apply_eq_report_iff {e : Effect} {file : ReportFile} :
    e.apply file = .report r ↔ e = .wrote r ∨ e = .untouched ∧ file = .report r := by
  cases e <;> simp [Effect.apply]

end load

end TripPipeline.Bench
