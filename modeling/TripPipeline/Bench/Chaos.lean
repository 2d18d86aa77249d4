import TripPipeline.Bench.Launch

/-!
# The chaos suite

`bench/chaos_suite.py`: every failure scenario and both arms of the backoff A/B are run several
times, and a verdict says that no run has lost an event silently. A run without a report, or with
one that has no reconciliation, has `None` for its loss, which the verdicts take for 0.

* `Run` keeps what the report file of a run held before, how its process ended, and what `extract`
  gave.
* `zeroLoss_iff`: a verdict is true iff no run shows a loss.
* `verdictsEarned_iff`: it is earned, whatever the processes do, iff one of its runs shows a loss or
  each of them has written its reconciliation.

The aggregates over the runs (`agg`) are left out: the verdicts do not read them.
-/

namespace TripPipeline.Bench

open TripPipeline.Common TripPipeline.Lib

/-! ## One run -/

/-- What `run_scenario` returns: a report, or the dictionary for one that was not read. -/
inductive RunReport where
  | report (r : ScenarioReport)
  | unread (error runId : String)

/-- What the suite keeps of a run. -/
structure Extracted where
  runId : String
  acked : Option ℤ
  expectedDistinct : Option ℤ
  written : Option ℤ
  quarantined : Option ℤ
  silentLoss : Option ℤ
  silentLossPct : Option ℚ
  recoverySeconds : Option ℚ
  recovered : Option Bool
  targetHealthySeconds : Option ℚ
  lagMax : Option ℤ
  drainSeconds : Option ℚ
  avgRetriesAllWrites : Option ℚ
  writesNeedingRetry : Option ℤ
  avgRetriesAmongRetried : Option ℚ
  cassandraRetries : Option ℤ
  failureReasons : Option (Counter String)
  producerTxretries : Option ℤ
  producerReqTimeouts : Option ℤ
  achievedRate : Option ℚ

/-- The fields of a run; one that was not read has its `run_id` only.
Source: `bench/chaos_suite.py` `extract` -/
def extract : RunReport → Extracted
  | .unread _ runId =>
      { runId := runId, acked := none, expectedDistinct := none, written := none
        quarantined := none, silentLoss := none, silentLossPct := none, recoverySeconds := none
        recovered := none, targetHealthySeconds := none, lagMax := none, drainSeconds := none
        avgRetriesAllWrites := none, writesNeedingRetry := none, avgRetriesAmongRetried := none
        cassandraRetries := none, failureReasons := none, producerTxretries := none
        producerReqTimeouts := none, achievedRate := none }
  | .report r =>
      let reconciliation := r.reconciliation.map Subtype.val
      { runId := r.runId
        acked := reconciliation.map Reconciliation.kafkaAcked
        expectedDistinct := reconciliation.map Reconciliation.expectedDistinctEvents
        written := reconciliation.map Reconciliation.writtenDistinctTrips
        quarantined := reconciliation.map Reconciliation.dlqDistinctEvents
        silentLoss := reconciliation.map Reconciliation.unaccountedSilentLoss
        silentLossPct := reconciliation.bind Reconciliation.silentLossPct
        recoverySeconds := r.fault.bind FaultReport.recoverySeconds
        recovered := r.fault.bind FaultReport.recovered
        targetHealthySeconds := r.fault.bind FaultReport.targetHealthySeconds
        lagMax := some r.lag.maxObserved
        drainSeconds := some r.lag.drainSeconds
        avgRetriesAllWrites := r.stream.avgRetriesToSuccessAllWrites
        writesNeedingRetry := r.stream.writesNeedingRetry
        avgRetriesAmongRetried := r.stream.avgRetriesAmongRetriedWrites
        cassandraRetries := r.stream.cassandraWriteRetries
        failureReasons := r.stream.failureReasons
        producerTxretries := r.producer.librdkafkaTxretries
        producerReqTimeouts := r.producer.librdkafkaReqTimeouts
        achievedRate := r.producer.achievedRate }

/-- One scenario process, and what is read of the file of its run id.
Source: `bench/chaos_suite.py` `run_scenario` -/
def runScenario (results runId : String) (files : Files) (o : Outcome) : RunReport × Files :=
  let files := files.run (reportPath results runId) o
  match files.load (reportPath results runId) with
  | .error e => (.unread e runId, files)
  | .ok r => (.report r, files)

/-- The loss that a report file shows. -/
def shownLoss : ReportFile → Option ℤ
  | .report r => r.reconciliation.map fun rec => rec.1.unaccountedSilentLoss
  | _ => none

/-- A scenario's silent loss is what the file at its report path shows once the process has
ended. -/
theorem silentLoss_runScenario (results runId : String) (files : Files) (o : Outcome) :
    (extract (runScenario results runId files o).1).silentLoss =
      shownLoss (o.effect.apply (files (reportPath results runId))) := by
  simp only [runScenario, Files.load, Files.run, Function.update_self]
  rcases o.effect.apply (files (reportPath results runId)) with _ | error | r
  · rfl
  · rfl
  · simp [extract, shownLoss]

/-- A run of the suite: the report file before it, how its process ended, and what was kept. -/
structure Run where
  runId : String
  before : ReportFile
  outcome : Outcome
  extracted : Extracted
  silentLoss_eq : extracted.silentLoss = shownLoss (outcome.effect.apply before)

/-! ## The suite -/

/-- Where the suite runs: the directory `RESULTS`, and how the n-th process ends. -/
structure SuiteEnv where
  results : String
  outcome : ℕ → Outcome

/-- The options that decide what is run. `scenarios` are the names that are not blank. -/
structure ChaosArgs where
  label : String
  repeats : ℤ
  scenarios : List String
  skipAb : Bool
  abFault : String

/-- The report files, and how many processes were started. -/
structure Suite where
  files : Files
  started : ℕ

/-- One turn of a loop over the runs. -/
def Suite.launch (env : SuiteEnv) (s : Suite) (runId : String) : Run × Suite :=
  let o := env.outcome s.started
  let run := runScenario env.results runId s.files o
  (⟨runId, s.files (reportPath env.results runId), o, extract run.1, silentLoss_runScenario ..⟩,
    ⟨run.2, s.started + 1⟩)

/-- The runs of a loop over run ids. -/
def Suite.launchAll (env : SuiteEnv) : List String → Suite → List Run × Suite
  | [], s => ([], s)
  | runId :: runIds, s =>
      let (run, s) := s.launch env runId
      let (runs, s) := Suite.launchAll env runIds s
      (run :: runs, s)

/-- `all((r.get("silent_loss") or 0) <= 0 for r in runs)`. -/
def zeroLoss (runs : List Run) : Bool := runs.all fun run => run.extracted.silentLoss.getD 0 ≤ 0

/-- The entry of a failure scenario. -/
structure ScenarioEntry where
  runs : List Run
  allRecovered : Bool
  zeroSilentLossEveryRun : Bool

/-- The entry for some runs. -/
def scenarioEntry (runs : List Run) : ScenarioEntry where
  runs := runs
  allRecovered := runs.all fun run => run.extracted.recovered.getD false
  zeroSilentLossEveryRun := zeroLoss runs

/-- `range(1, args.repeats + 1)`. -/
def repeats (args : ChaosArgs) : List ℕ := (List.range args.repeats.toNat).map (· + 1)

/-- The run ids of a scenario. -/
def scenarioRunIds (args : ChaosArgs) (scenario : String) : List String :=
  (repeats args).map fun i => args.label ++ "_" ++ scenario ++ "_" ++ toString i

/-- `out["scenarios"][scenario] = entry`: a name that is run again keeps its place. -/
def setEntry (scenario : String) (entry : ScenarioEntry) :
    List (String × ScenarioEntry) → List (String × ScenarioEntry)
  | [] => [(scenario, entry)]
  | (name, old) :: entries =>
      if name = scenario then (name, entry) :: entries
      else (name, old) :: setEntry scenario entry entries

/-- The loop over the failure scenarios. -/
def scenarioLoop (env : SuiteEnv) (args : ChaosArgs) :
    List String → List (String × ScenarioEntry) → Suite → List (String × ScenarioEntry) × Suite
  | [], entries, s => (entries, s)
  | scenario :: scenarios, entries, s =>
      let (runs, s) := s.launchAll env (scenarioRunIds args scenario)
      scenarioLoop env args scenarios (setEntry scenario (scenarioEntry runs) entries) s

/-- The arms of the A/B. -/
inductive Arm where
  | withBackoff
  | noBackoff
  deriving DecidableEq

/-- The name of an arm. -/
def Arm.name : Arm → String
  | .withBackoff => "with_backoff"
  | .noBackoff => "no_backoff"

/-- The arms in the order of their runs. -/
def armOrder (args : ChaosArgs) : List (Arm × String) :=
  (repeats args).flatMap fun i => [Arm.withBackoff, Arm.noBackoff].map fun arm =>
    (arm, args.label ++ "_ab_" ++ arm.name ++ "_" ++ toString i)

/-- The entry `"backoff_ab"`. -/
structure BackoffAb where
  fault : String
  withBackoff : List Run
  noBackoff : List Run
  silentLossZeroInBothArms : Bool

/-- The backoff A/B. -/
def backoffAb (env : SuiteEnv) (args : ChaosArgs) (s : Suite) : BackoffAb :=
  let runs := (s.launchAll env ((armOrder args).map Prod.snd)).1
  let arms := ((armOrder args).map Prod.fst).zip runs
  let wb := (arms.filter fun r => r.1 = .withBackoff).map Prod.snd
  let nb := (arms.filter fun r => r.1 = .noBackoff).map Prod.snd
  { fault := args.abFault
    withBackoff := wb
    noBackoff := nb
    silentLossZeroInBothArms := zeroLoss (wb ++ nb) }

/-- What `main` dumps. -/
structure ChaosReport where
  scenarios : List (String × ScenarioEntry)
  backoffAb : Option BackoffAb

/-- The whole suite.
Source: `bench/chaos_suite.py` `main` -/
def chaosMain (env : SuiteEnv) (args : ChaosArgs) (files : Files) : ChaosReport :=
  let (entries, s) := scenarioLoop env args args.scenarios [] ⟨files, 0⟩
  { scenarios := entries
    backoffAb := if args.skipAb then none else some (backoffAb env args s) }

/-! ## What is run -/

section runs

variable {env : SuiteEnv} {args : ChaosArgs}

/-- A run for each id. -/
theorem runIds_launchAll (runIds : List String) (s : Suite) :
    (s.launchAll env runIds).1.map Run.runId = runIds := by
  induction runIds generalizing s with
  | nil => rfl
  | cons runId runIds ih =>
      rw [Suite.launchAll, List.map_cons, ih]
      rfl

/-- An entry is one for the runs of its scenario. -/
def EntryOf (args : ChaosArgs) (e : String × ScenarioEntry) : Prop :=
  e.2 = scenarioEntry e.2.runs ∧ e.2.runs.map Run.runId = scenarioRunIds args e.1

/-- Setting a scenario's entry keeps every entry in its place. -/
theorem entryOf_setEntry {scenario : String} {entry : ScenarioEntry}
    {entries : List (String × ScenarioEntry)} (hentry : EntryOf args (scenario, entry))
    (hentries : ∀ e ∈ entries, EntryOf args e) :
    ∀ e ∈ setEntry scenario entry entries, EntryOf args e := by
  induction entries with
  | nil =>
      intro e he
      rw [List.mem_singleton.mp he]
      exact hentry
  | cons old entries ih =>
      obtain ⟨hold, hrest⟩ := List.forall_mem_cons.mp hentries
      rw [setEntry]
      split_ifs with hname
      · subst hname
        exact List.forall_mem_cons.mpr ⟨hentry, hrest⟩
      · exact List.forall_mem_cons.mpr ⟨hold, ih hrest⟩

/-- **Every entry of the suite has all runs of its scenario.** -/
theorem entryOf_scenarioLoop (scenarios : List String) {entries : List (String × ScenarioEntry)}
    (hentries : ∀ e ∈ entries, EntryOf args e) (s : Suite) :
    ∀ e ∈ (scenarioLoop env args scenarios entries s).1, EntryOf args e := by
  induction scenarios generalizing entries s with
  | nil => exact hentries
  | cons scenario scenarios ih =>
      rw [scenarioLoop]
      apply ih
      apply entryOf_setEntry _ hentries
      exact ⟨rfl, runIds_launchAll _ s⟩

/-- The run ids of an arm. -/
def armRunIds (args : ChaosArgs) (arm : Arm) : List String :=
  (repeats args).map fun i => args.label ++ "_ab_" ++ arm.name ++ "_" ++ toString i

/-- The ids of an arm, out of the order of all runs. -/
theorem armOrder_filter (args : ChaosArgs) (arm : Arm) :
    ((armOrder args).filter fun r => r.1 = arm).map Prod.snd = armRunIds args arm := by
  unfold armOrder armRunIds
  induction repeats args with
  | nil => rfl
  | cons i is ih =>
      rw [List.flatMap_cons, List.filter_append, List.map_append, ih]
      cases arm <;> rfl

/-- **An arm has a run for each repeat.** -/
theorem runIds_arm (arm : Arm) (s : Suite) :
    (((((armOrder args).map Prod.fst).zip (s.launchAll env ((armOrder args).map Prod.snd)).1).filter
      fun r => r.1 = arm).map Prod.snd).map Run.runId = armRunIds args arm := by
  have hzip : (((armOrder args).map Prod.fst).zip
      (s.launchAll env ((armOrder args).map Prod.snd)).1).map (Prod.map id Run.runId) =
        armOrder args := by
    rw [← List.zip_map_right, runIds_launchAll, List.zip_map']
    exact List.map_id _
  rw [← armOrder_filter, ← congrArg (List.filter fun r => r.1 = arm) hzip, List.filter_map,
    List.map_map, List.map_map]
  rfl

/-- The runs of the A/B. -/
theorem runIds_backoffAb (s : Suite) :
    (backoffAb env args s).withBackoff.map Run.runId = armRunIds args .withBackoff ∧
      (backoffAb env args s).noBackoff.map Run.runId = armRunIds args .noBackoff :=
  ⟨runIds_arm .withBackoff s, runIds_arm .noBackoff s⟩

end runs

/-! ## The verdicts -/

/-- The run has written a reconciliation that names no loss. -/
def Earned (run : Run) : Prop :=
  ∃ r rec, run.outcome.effect = .wrote r ∧ r.reconciliation = some rec ∧
    rec.1.unaccountedSilentLoss = 0

/-- The run has written a reconciliation. -/
def Reconciled (run : Run) : Prop :=
  ∃ r rec, run.outcome.effect = .wrote r ∧ r.reconciliation = some rec

/-- The report file of the run shows a loss. -/
def ShowsLoss (run : Run) : Prop :=
  ∃ r rec, run.outcome.effect.apply run.before = .report r ∧ r.reconciliation = some rec ∧
    0 < rec.1.unaccountedSilentLoss

/-- A verdict over these runs cannot be true without being earned: one of them shows a loss, or each
has written its reconciliation. -/
def Settled (runs : List Run) : Prop :=
  (∃ run ∈ runs, ShowsLoss run) ∨ ∀ run ∈ runs, Reconciled run

/-- A run shows loss when its silent loss is a positive number; a missing one is no loss. -/
theorem showsLoss_iff {run : Run} :
    ShowsLoss run ↔ ∃ n, run.extracted.silentLoss = some n ∧ 0 < n := by
  rw [run.silentLoss_eq]
  unfold ShowsLoss
  rcases run.outcome.effect.apply run.before with _ | error | r
  · simp [shownLoss]
  · simp [shownLoss]
  · constructor
    · rintro ⟨r', rec, hr, hrec, hpos⟩
      obtain rfl := ReportFile.report.inj hr
      exact ⟨_, by rw [shownLoss, hrec, Option.map_some], hpos⟩
    · rintro ⟨n, hn, hpos⟩
      obtain ⟨rec, hrec, rfl⟩ := Option.map_eq_some_iff.mp hn
      exact ⟨r, rec, rfl, hrec, hpos⟩

/-- **A verdict is true iff no run shows a loss.** -/
theorem zeroLoss_iff {runs : List Run} :
    zeroLoss runs = true ↔ ∀ run ∈ runs, ¬ShowsLoss run := by
  simp only [zeroLoss, List.all_eq_true, decide_eq_true_eq]
  refine forall₂_congr fun run _ => ?_
  rw [showsLoss_iff]
  rcases run.extracted.silentLoss with _ | n <;> simp

/-- A reconciliation that was written names no loss, or shows it. -/
theorem Reconciled.earned {run : Run} (h : Reconciled run) (hnone : ¬ShowsLoss run) :
    Earned run := by
  obtain ⟨r, rec, hwrote, hrec⟩ := h
  refine ⟨r, rec, hwrote, hrec, ?_⟩
  by_contra hne
  apply hnone
  refine ⟨r, rec, ?_, hrec, lt_of_le_of_ne rec.2 (Ne.symm hne)⟩
  rw [hwrote]
  rfl

/-- **A verdict is earned if it is true, iff its runs settle it.** -/
theorem earned_iff {runs : List Run} :
    (zeroLoss runs = true → ∀ run ∈ runs, Earned run) ↔ Settled runs := by
  constructor
  · intro h
    by_contra hnot
    obtain ⟨hnone, hsome⟩ := not_or.mp hnot
    apply hsome
    have hzero : zeroLoss runs = true :=
      zeroLoss_iff.mpr fun run hrun hloss => hnone ⟨run, hrun, hloss⟩
    intro run hrun
    obtain ⟨r, rec, hwrote, hrec, -⟩ := h hzero run hrun
    exact ⟨r, rec, hwrote, hrec⟩
  · rintro (⟨run, hrun, hloss⟩ | hall) hzero
    · exact absurd hloss (zeroLoss_iff.mp hzero run hrun)
    · intro run hrun
      exact (hall run hrun).earned (zeroLoss_iff.mp hzero run hrun)

/-- Each verdict that the suite gives is earned by every run it is about. -/
structure VerdictsEarned (args : ChaosArgs) (out : ChaosReport) : Prop where
  everyRun : ∀ e ∈ out.scenarios, e.2.zeroSilentLossEveryRun = true →
    e.2.runs.map Run.runId = scenarioRunIds args e.1 ∧ ∀ run ∈ e.2.runs, Earned run
  bothArms : ∀ ab ∈ out.backoffAb, ab.silentLossZeroInBothArms = true →
    (ab.withBackoff.map Run.runId = armRunIds args .withBackoff ∧
      ab.noBackoff.map Run.runId = armRunIds args .noBackoff) ∧
        ∀ run ∈ ab.withBackoff ++ ab.noBackoff, Earned run

/-- **The suite's verdicts are earned iff the runs of each settle it.** -/
theorem verdictsEarned_iff (env : SuiteEnv) (args : ChaosArgs) (files : Files) :
    VerdictsEarned args (chaosMain env args files) ↔
      (∀ e ∈ (chaosMain env args files).scenarios, Settled e.2.runs) ∧
        ∀ ab ∈ (chaosMain env args files).backoffAb, Settled (ab.withBackoff ++ ab.noBackoff) := by
  have hentries : ∀ e ∈ (chaosMain env args files).scenarios, EntryOf args e :=
    entryOf_scenarioLoop _ (fun e he => absurd he List.not_mem_nil) _
  have harms : ∀ ab ∈ (chaosMain env args files).backoffAb, ∃ s, ab = backoffAb env args s := by
    intro ab hab
    unfold chaosMain at hab
    simp only [Option.mem_def] at hab
    split_ifs at hab
    exact ⟨_, (Option.some.inj hab).symm⟩
  constructor
  · intro h
    refine ⟨fun e he => earned_iff.mp fun hzero => ?_, fun ab hab => earned_iff.mp fun hzero => ?_⟩
    · exact (h.everyRun e he (by rw [(hentries e he).1]; exact hzero)).2
    · obtain ⟨s, rfl⟩ := harms ab hab
      exact (h.bothArms _ hab hzero).2
  · rintro ⟨hscenarios, hab⟩
    refine ⟨fun e he hzero => ⟨(hentries e he).2, ?_⟩, fun ab hmem hzero => ?_⟩
    · rw [(hentries e he).1] at hzero
      exact earned_iff.mpr (hscenarios e he) hzero
    · obtain ⟨s, rfl⟩ := harms ab hmem
      exact ⟨runIds_backoffAb s, earned_iff.mpr (hab _ hmem) hzero⟩

/-- Every process fails before it writes a report. -/
def downEnv : SuiteEnv := ⟨"results/raw", fun _ => ⟨1, .untouched⟩⟩

/-- One scenario, and the A/B, once each. -/
def onceArgs : ChaosArgs := ⟨"chaos", 1, ["kill_broker"], false, "kill_cassandra_quorum"⟩

/-- No run has a report, and both verdicts are true. -/
theorem verdicts_vacuous :
    (∃ e ∈ (chaosMain downEnv onceArgs fun _ => .missing).scenarios,
        e.2.zeroSilentLossEveryRun = true ∧ ∃ run ∈ e.2.runs, ¬Earned run) ∧
      ∃ ab ∈ (chaosMain downEnv onceArgs fun _ => .missing).backoffAb,
        ab.silentLossZeroInBothArms = true ∧ ∃ run ∈ ab.withBackoff, ¬Earned run := by
  have hdown : ∀ run : Run, run.outcome = ⟨1, .untouched⟩ → ¬Earned run := by
    rintro run houtcome ⟨r, rec, hwrote, -⟩
    rw [houtcome] at hwrote
    cases hwrote
  constructor
  · refine ⟨_, List.mem_singleton_self _, ?_, _, List.mem_singleton_self _, hdown _ rfl⟩
    decide +kernel
  · refine ⟨_, rfl, ?_, _, List.mem_singleton_self _, hdown _ rfl⟩
    decide +kernel

end TripPipeline.Bench
