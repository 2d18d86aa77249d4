import TripPipeline.Bench.Launch
import TripPipeline.Lib.PrefixScan

/-!
# The throughput sweep

`bench/throughput_sweep.py`: a scenario process per rate, the verdict on its report, and the rate
that the sweep reports.

* `runStep` judges the file of a run id without looking at the exit code of the process. Without a
  readable file it gives an entry that has no `failed_because`, which `main` prints next.
* `sustainedRate_iff`: the headline is the highest rate without a failure at or below it iff the
  first step at the lowest failing rate is a failure. The sort is stable, and the scan takes a
  sustained step for its rate.
* `judgesOwn_iff`: the runs whose report has an entry per step and calls sustained only what the
  process of the step has shown.
-/

namespace TripPipeline.Bench

open TripPipeline.Common TripPipeline.Lib

/-! ## One step -/

/-- How numbers are spelled. -/
structure Format where
  /-- `f"{x:.2f}"`, with so many digits. -/
  fixed : ℕ → ℚ → String
  /-- `f"{x}"`. -/
  str : ℚ → String

/-- The options of the sweep that `run_step` and `main` compute with. -/
structure SweepArgs where
  label : String
  duration : ℚ
  maxLagGrowthRun : ℤ
  maxDrainRatio : ℚ
  stopAfterFailures : ℤ
  /-- `--max-drain-ratio` is a `float`. -/
  fl_maxDrainRatio : fl maxDrainRatio = maxDrainRatio

/-- The entry of a step whose report was read. -/
structure JudgedStep where
  rate : ℚ
  runId : String
  sustained : Bool
  failedBecause : List String
  achievedRate : Option ℚ
  rateAttainmentPct : ℚ
  acked : Option ℤ
  written : Option ℤ
  dlq : Option ℤ
  unaccounted : ℤ
  lagMax : ℤ
  lagFinal : Option ℤ
  lagGrowthRun : ℕ
  drainSeconds : ℚ
  drainRatio : ℚ
  effectiveConsumerRate : ℚ
  rowsWrittenCassandra : Option ℤ
  writeAmplification : Option ℚ
  batchSecondsP95 : Option ℚ
  meanLatencyMsSampled : Option ℚ

/-- What `run_step` returns: the entry of a judged step, or one for a report that was not read. -/
inductive StepResult where
  | unread (rate : ℚ) (runId error : String) (exitCode : ℤ)
  | judged (step : JudgedStep)

/-- `step["rate"]`. -/
def StepResult.rate : StepResult → ℚ
  | .unread rate _ _ _ => rate
  | .judged step => step.rate

/-- `step["sustained"]`. -/
def StepResult.sustained : StepResult → Bool
  | .unread _ _ _ _ => false
  | .judged step => step.sustained

/-- `step["failed_because"]`. -/
def StepResult.failedBecause : StepResult → Except Exc (List String)
  | .unread _ _ _ _ => .error ⟨"KeyError", "'failed_because'", [.keyError]⟩
  | .judged step => .ok step.failedBecause

/-- `int(rate)`. -/
def truncate (rate : ℚ) : ℤ := if rate < 0 then -⌊-rate⌋ else ⌊rate⌋

/-- `run_id`. -/
def sweepRunId (args : SweepArgs) (rate : ℚ) : String :=
  args.label ++ "_r" ++ toString (truncate rate)

/-- `drain_ratio`, a division of doubles. -/
def drainRatio (args : SweepArgs) (r : ScenarioReport) : ℚ :=
  if args.duration = 0 then 0 else fl (r.lag.drainSeconds / args.duration)

/-- `attainment`. -/
def attainment (r : ScenarioReport) : ℚ := r.producer.rateAttainmentPct.getD 0

/-- `rec.get("unaccounted_silent_loss", 0)`. -/
def unaccounted (r : ScenarioReport) : ℤ :=
  (r.reconciliation.map fun rec => rec.1.unaccountedSilentLoss).getD 0

/-- `effective`. -/
def effectiveRate (args : SweepArgs) (r : ScenarioReport) : ℚ :=
  let written := (r.reconciliation.map fun rec => rec.1.writtenDistinctTrips).getD 0
  if args.duration + r.lag.drainSeconds = 0 then 0
  else fl (written / fl (args.duration + r.lag.drainSeconds))

/-- `reasons`. -/
def reasons (fmt : Format) (args : SweepArgs) (r : ScenarioReport) : List String :=
  (if args.maxDrainRatio < drainRatio args r then
    ["consumer did not keep pace: drain took " ++ fmt.fixed 0 r.lag.drainSeconds ++ "s after a " ++
      fmt.fixed 0 args.duration ++ "s window (ratio " ++ fmt.fixed 2 (drainRatio args r) ++ " > " ++
      fmt.str args.maxDrainRatio ++ ")"]
  else []) ++
  (if attainment r < 95 then
    ["producer attained only " ++ fmt.str (attainment r) ++ "% of target"]
  else []) ++
  (if args.maxLagGrowthRun < r.lag.longestMonotonicGrowthRun then
    ["lag grew monotonically for " ++ toString r.lag.longestMonotonicGrowthRun ++
      " samples (limit " ++ toString args.maxLagGrowthRun ++ ")"]
  else []) ++
  (if r.lag.drained then [] else ["backlog did not drain within timeout"]) ++
  (if 0 < unaccounted r then [toString (unaccounted r) ++ " events unaccounted for"] else [])

/-- The entry of a report. -/
def judge (fmt : Format) (args : SweepArgs) (rate : ℚ) (r : ScenarioReport) : JudgedStep where
  rate := rate
  runId := sweepRunId args rate
  sustained := (reasons fmt args r).isEmpty
  failedBecause := reasons fmt args r
  achievedRate := r.producer.achievedRate
  rateAttainmentPct := attainment r
  acked := r.producer.acked
  written := r.reconciliation.map fun rec => rec.1.writtenDistinctTrips
  dlq := r.reconciliation.map fun rec => rec.1.dlqDistinctEvents
  unaccounted := unaccounted r
  lagMax := r.lag.maxObserved
  lagFinal := r.lag.final
  lagGrowthRun := r.lag.longestMonotonicGrowthRun
  drainSeconds := r.lag.drainSeconds
  drainRatio := pyRound (drainRatio args r) 3
  effectiveConsumerRate := pyRound (effectiveRate args r) 1
  rowsWrittenCassandra := r.stream.rowsWrittenCassandra
  writeAmplification := r.stream.writeAmplification
  batchSecondsP95 := r.stream.batchSecondsP95
  meanLatencyMsSampled := r.stream.meanE2eLatencyMsSampled

/-- Where the sweep runs: the directory `RESULTS` and the spelling of numbers. -/
structure SweepEnv where
  results : String
  fmt : Format

/-- One step: the process, and the verdict on the file of its run id. The files are those after the
process.
Source: `bench/throughput_sweep.py` `run_step` -/
def runStep (env : SweepEnv) (args : SweepArgs) (rate : ℚ) (files : Files) (o : Outcome) :
    StepResult × Files :=
  let path := reportPath env.results (sweepRunId args rate)
  let files := files.run path o
  match files.load path with
  | .error e =>
      (.unread rate (sweepRunId args rate) ("no scenario report: " ++ e) o.returncode, files)
  | .ok r => (.judged (judge env.fmt args rate r), files)

/-! ## The criteria -/

/-- A report passes the checks of `run_step`. -/
structure Passes (args : SweepArgs) (r : ScenarioReport) : Prop where
  pace : drainRatio args r ≤ args.maxDrainRatio
  attained : 95 ≤ attainment r
  flat : r.lag.longestMonotonicGrowthRun ≤ args.maxLagGrowthRun
  drained : r.lag.drained = true
  accounted : unaccounted r ≤ 0

/-- The five criteria for `SUSTAINED`. -/
structure Criteria (args : SweepArgs) (r : ScenarioReport) : Prop where
  attained : ∃ pct, r.producer.rateAttainmentPct = some pct ∧ 95 ≤ pct
  flat : r.lag.longestMonotonicGrowthRun ≤ args.maxLagGrowthRun
  drained : r.lag.drained = true
  reconciled : ∃ rec, r.reconciliation = some rec ∧ rec.1.unaccountedSilentLoss = 0
  pace : r.lag.drainSeconds ≤ args.maxDrainRatio * args.duration

/-- What the checks take for granted: a reconciliation, a window that the drain is compared with,
and a quotient of the two that is not rounded down to the ratio. -/
def Shown (args : SweepArgs) (r : ScenarioReport) : Prop :=
  r.reconciliation.isSome ∧
    (0 < args.duration ∧ fl (r.lag.drainSeconds / args.duration) ≠ args.maxDrainRatio ∨
      r.lag.drainSeconds ≤ args.maxDrainRatio * args.duration)

section checks

variable {fmt : Format} {args : SweepArgs} {r : ScenarioReport}

/-- No reason to fail is listed when the report passes every criterion. -/
theorem reasons_eq_nil_iff : reasons fmt args r = [] ↔ Passes args r := by
  have hiff : reasons fmt args r = [] ↔ ¬args.maxDrainRatio < drainRatio args r ∧
      ¬attainment r < 95 ∧ ¬args.maxLagGrowthRun < r.lag.longestMonotonicGrowthRun ∧
        r.lag.drained = true ∧ ¬0 < unaccounted r := by
    simp [reasons]
  rw [hiff]
  simp only [not_lt]
  exact ⟨fun ⟨hpace, hattained, hflat, hdrained, haccounted⟩ =>
    ⟨hpace, hattained, hflat, hdrained, haccounted⟩,
    fun h => ⟨h.pace, h.attained, h.flat, h.drained, h.accounted⟩⟩

/-- A quotient that is less than the ratio as a double is so exactly. -/
theorem within_of_drainRatio_lt (hpos : 0 < args.duration)
    (h : fl (r.lag.drainSeconds / args.duration) < args.maxDrainRatio) :
    r.lag.drainSeconds ≤ args.maxDrainRatio * args.duration := by
  by_contra hnot
  have hexact : args.maxDrainRatio ≤ r.lag.drainSeconds / args.duration := by
    rw [le_div_iff₀ hpos]
    exact (not_le.mp hnot).le
  have hdouble := fl_mono hexact
  rw [args.fl_maxDrainRatio] at hdouble
  exact absurd h (not_lt.mpr hdouble)

/-- A drain of 36 seconds after a window of 120 is over the ratio `0.3`, which is the quotient. -/
example : fl (36 / 120) = fl (3 / 10) ∧ fl (3 / 10) * 120 < 36 := by decide +kernel

/-- A report that passes meets the criteria iff it shows what they are about. -/
theorem criteria_iff (h : Passes args r) : Criteria args r ↔ Shown args r := by
  constructor
  · intro hc
    obtain ⟨rec, hrec, -⟩ := hc.reconciled
    exact ⟨by simp [hrec], Or.inr hc.pace⟩
  · rintro ⟨hsome, hpace⟩
    obtain ⟨rec, hrec⟩ := Option.isSome_iff_exists.mp hsome
    refine ⟨?_, h.flat, h.drained, ⟨rec, hrec, ?_⟩, ?_⟩
    · have hattained := h.attained
      unfold attainment at hattained
      rcases hpct : r.producer.rateAttainmentPct with _ | pct
      · norm_num [hpct] at hattained
      · exact ⟨pct, rfl, by simpa [hpct] using hattained⟩
    · have haccounted := h.accounted
      simp only [unaccounted, hrec, Option.map_some, Option.getD_some] at haccounted
      exact le_antisymm haccounted rec.2
    · rcases hpace with ⟨hpos, hne⟩ | hpace
      · have hratio := h.pace
        rw [drainRatio, if_neg hpos.ne'] at hratio
        exact within_of_drainRatio_lt hpos (lt_of_le_of_ne hratio hne)
      · exact hpace

/-- A step is sustained when its report passes. -/
theorem judge_sustained_iff {rate : ℚ} :
    (judge fmt args rate r).sustained = true ↔ Passes args r :=
  List.isEmpty_iff.trans reasons_eq_nil_iff

end checks

/-- A report of a step at 500 events per second. -/
def sampleReport (drained : Bool) : ScenarioReport where
  runId := "sweep_r500"
  producer := ⟨some 100, some 500, some 60000, some 0, some 0⟩
  stream := ⟨none, none, none, none, none, none, none, none, none⟩
  reconciliation := some ⟨⟨60000, 60000, 0, 60000, 0, 60000, 60000, 0, 0, 60000, 0, 0⟩, le_rfl⟩
  lag := ⟨0, some 0, 0, drained, 2⟩
  fault := none

/-- The default options. -/
def sampleArgs : SweepArgs := ⟨"sweep", 120, 5, 1 / 4, 2, by decide +kernel⟩

/-- An environment that spells no number. -/
def sampleEnv : SweepEnv := ⟨"results/raw", ⟨fun _ _ => "", fun _ => ""⟩⟩

/-- The entry of a step with this report. -/
def sampleStep (drained : Bool) : StepResult :=
  .judged (judge sampleEnv.fmt sampleArgs 500 (sampleReport drained))

/-- The sample report passes when it drained. -/
theorem passes_sample {drained : Bool} :
    Passes sampleArgs (sampleReport drained) ↔ drained = true := by
  constructor
  · exact fun h => h.drained
  · intro h
    refine ⟨?_, ?_, ?_, h, ?_⟩
    · have hquotient : fl (2 / 120) ≤ fl (1 / 4) := fl_mono (by norm_num)
      rw [drainRatio, if_neg (by norm_num [sampleArgs])]
      exact hquotient.trans sampleArgs.fl_maxDrainRatio.le
    · norm_num [attainment, sampleReport]
    · simp [sampleReport, sampleArgs]
    · simp [unaccounted, sampleReport]

/-- The sample step is sustained when its report drained. -/
theorem sustained_sample {drained : Bool} : (sampleStep drained).sustained = drained := by
  rw [Bool.eq_iff_iff]
  exact judge_sustained_iff.trans passes_sample

/-- The sample step runs at 500 events a second. -/
theorem rate_sample {drained : Bool} : (sampleStep drained).rate = 500 := rfl

/-! ## The headline -/

/-- The scan of `main` for `sustainable`, with its early exit. -/
def scanSustained : Option StepResult → List StepResult → Option StepResult
  | best, [] => best
  | best, step :: steps => if step.sustained then scanSustained (some step) steps else best

/-- `sustainable`. -/
def sustainable (steps : List StepResult) : Option StepResult :=
  scanSustained none (steps.mergeSort fun a b => a.rate ≤ b.rate)

/-- `sustained_rate`. -/
def sustainedRate (steps : List StepResult) : Option ℚ := (sustainable steps).map StepResult.rate

/-- The loop keeps the last of the leading sustained steps. -/
theorem scanSustained_eq (best : Option StepResult) (steps : List StepResult) :
    scanSustained best steps = (steps.takeWhile StepResult.sustained).getLast?.or best := by
  induction steps generalizing best with
  | nil => rfl
  | cons step steps ih =>
      rw [scanSustained, List.takeWhile_cons]
      split_ifs with h
      · rw [ih, List.getLast?_cons]
        cases (steps.takeWhile StepResult.sustained).getLast? <;> rfl
      · rfl

/-- The sustained rate is a prefix key of the steps sorted by rate. -/
theorem sustainedRate_eq (steps : List StepResult) : sustainedRate steps =
    prefixKey StepResult.rate StepResult.sustained (steps.mergeSort (keyLe StepResult.rate)) := by
  rw [sustainedRate, sustainable, scanSustained_eq, Option.or_none]
  rfl

/-- **The headline is the highest clean rate iff the lowest failing rate begins with a failure.** -/
theorem sustainedRate_iff (steps : List StepResult) :
    IsGreatestClean StepResult.rate StepResult.sustained steps (sustainedRate steps) ↔
      FailureFirst StepResult.rate StepResult.sustained steps := by
  rw [sustainedRate_eq, isGreatestClean_iff]

/-- The steps of `--rates 500,500`, when the second one has not drained. -/
def tiedSteps : List StepResult := [sampleStep true, sampleStep false]

/-- 500 is reported, although a step at 500 has failed. -/
theorem tied_headline : sustainedRate tiedSteps = some 500 ∧
    ¬IsGreatestClean StepResult.rate StepResult.sustained tiedSteps (sustainedRate tiedSteps) := by
  have hsorted : tiedSteps.mergeSort (fun a b => a.rate ≤ b.rate) = tiedSteps :=
    List.mergeSort_of_pairwise (by decide)
  have hrate : sustainedRate tiedSteps = some 500 := by
    rw [sustainedRate, sustainable, hsorted]
    simp [tiedSteps, scanSustained, sustained_sample, rate_sample]
  refine ⟨hrate, ?_⟩
  rw [hrate]
  rintro ⟨-, hclean, -⟩
  have hfailed := hclean _ (List.mem_cons_of_mem _ (List.mem_singleton_self _)) le_rfl
  simp [sustained_sample] at hfailed

/-! ## The sweep -/

/-- What `main` dumps. -/
structure SweepReport where
  stepDurationSec : ℚ
  maxLagGrowthRun : ℤ
  steps : List StepResult
  sustainedRate : Option ℚ
  sustainedStep : Option StepResult
  firstFailingRate : Option ℚ

/-- A step whose process was started, with what its report file held before. -/
structure Launched where
  rate : ℚ
  before : ReportFile
  outcome : Outcome

/-- The loop of `main`: `launched` is not in the source. -/
structure Sweep where
  files : Files
  consecutiveFailures : ℤ
  steps : List StepResult
  launched : List Launched

/-- `main` has run `run_step` and appended its result. -/
def Sweep.step (env : SweepEnv) (args : SweepArgs) (s : Sweep) (rate : ℚ) (o : Outcome) :
    StepResult × Sweep :=
  let (step, files) := runStep env args rate s.files o
  (step,
    { files := files
      consecutiveFailures := if step.sustained then 0 else s.consecutiveFailures + 1
      steps := s.steps ++ [step]
      launched := s.launched ++
        [⟨rate, s.files (reportPath env.results (sweepRunId args rate)), o⟩] })

/-- The line that `main` prints after a step needs the reasons of a failure. -/
def printVerdict (step : StepResult) : Except Exc Unit :=
  if step.sustained then .ok ()
  else do
    let _ ← step.failedBecause
    .ok ()

/-- The loop over the rates, each with how its process would end: the last state, and the exception
that ended the loop. -/
def sweepLoop (env : SweepEnv) (args : SweepArgs) : List (ℚ × Outcome) → Sweep → Sweep × Option Exc
  | [], s => (s, none)
  | (rate, o) :: rest, s =>
      let (step, s) := s.step env args rate o
      match printVerdict step with
      | .error e => (s, some e)
      | .ok () =>
          if args.stopAfterFailures ≤ s.consecutiveFailures then (s, none)
          else sweepLoop env args rest s

/-- A run of `main`: the last state of its loop, and the report or the exception. -/
structure SweepRun where
  final : Sweep
  result : Except Exc SweepReport

/-- The sweep over the rates.
Source: `bench/throughput_sweep.py` `main` -/
def sweepMain (env : SweepEnv) (args : SweepArgs) (files : Files) (rates : List (ℚ × Outcome)) :
    SweepRun :=
  let (s, raised) := sweepLoop env args rates ⟨files, 0, [], []⟩
  match raised with
  | some e => ⟨s, .error e⟩
  | none =>
      ⟨s, .ok
        { stepDurationSec := args.duration
          maxLagGrowthRun := args.maxLagGrowthRun
          steps := s.steps
          sustainedRate := sustainedRate s.steps
          sustainedStep := sustainable s.steps
          firstFailingRate := (s.steps.find? fun step => !step.sustained).map StepResult.rate }⟩

/-! ## What a run reports -/

section run

variable {env : SweepEnv} {args : SweepArgs}

/-- The entry of a step, from what its report file held and how its process ended. -/
def entryOf (env : SweepEnv) (args : SweepArgs) (l : Launched) : StepResult :=
  (runStep env args l.rate (fun _ => l.before) l.outcome).1

/-- `main` has the reasons of the entry, when it is a failure. -/
def Printable (env : SweepEnv) (args : SweepArgs) (l : Launched) : Prop :=
  printVerdict (entryOf env args l) = .ok ()

/-- A step's entry depends on the file it found and on what the process did. -/
theorem runStep_eq (rate : ℚ) (files : Files) (o : Outcome) :
    (runStep env args rate files o).1 =
      entryOf env args ⟨rate, files (reportPath env.results (sweepRunId args rate)), o⟩ := by
  simp only [entryOf, runStep, Files.load, Files.run, Function.update_self]
  split <;> rfl

/-- A report at the path is judged. -/
theorem entryOf_report {l : Launched} {r : ScenarioReport}
    (h : l.outcome.effect.apply l.before = .report r) :
    entryOf env args l = .judged (judge env.fmt args l.rate r) := by
  simp [entryOf, runStep, Files.load, Files.run, h]

/-- Without a report at the path the step is unread. -/
theorem entryOf_unread {l : Launched} (h : ∀ r, l.outcome.effect.apply l.before ≠ .report r) :
    ∃ error, entryOf env args l =
      .unread l.rate (sweepRunId args l.rate) error l.outcome.returncode := by
  rcases happly : l.outcome.effect.apply l.before with _ | error | r
  · exact ⟨_, by simp [entryOf, runStep, Files.load, Files.run, happly]; rfl⟩
  · exact ⟨_, by simp [entryOf, runStep, Files.load, Files.run, happly]; rfl⟩
  · exact absurd happly (h r)

/-- An entry is printable iff a report was read. -/
theorem printable_iff {l : Launched} :
    Printable env args l ↔ ∃ r, l.outcome.effect.apply l.before = .report r := by
  unfold Printable
  constructor
  · intro hprint
    by_contra hnone
    obtain ⟨error, hentry⟩ := entryOf_unread (not_exists.mp hnone)
    rw [hentry] at hprint
    cases hprint
  · rintro ⟨r, hr⟩
    rw [entryOf_report hr, printVerdict]
    split_ifs <;> rfl

/-- **What one step adds.** -/
theorem step_eq (s : Sweep) (rate : ℚ) (o : Outcome) :
    ∃ l : Launched, l.rate = rate ∧ l.outcome = o ∧
      (s.step env args rate o).1 = entryOf env args l ∧
      (s.step env args rate o).2.steps = s.steps ++ [entryOf env args l] ∧
      (s.step env args rate o).2.launched = s.launched ++ [l] := by
  refine ⟨⟨rate, s.files (reportPath env.results (sweepRunId args rate)), o⟩, rfl, rfl, ?_, ?_, rfl⟩
  · exact runStep_eq rate s.files o
  · rw [← runStep_eq rate s.files o]
    rfl

/-- **What the loop adds**: an entry for each process it has started. It raises iff one of them
could not be printed. -/
theorem sweepLoop_spec (rates : List (ℚ × Outcome)) (s : Sweep) :
    ∃ ls, (sweepLoop env args rates s).1.launched = s.launched ++ ls ∧
      (sweepLoop env args rates s).1.steps = s.steps ++ ls.map (entryOf env args) ∧
      ((sweepLoop env args rates s).2 = none ↔ ∀ l ∈ ls, Printable env args l) := by
  induction rates generalizing s with
  | nil => exact ⟨[], by simp [sweepLoop], by simp [sweepLoop], by simp [sweepLoop]⟩
  | cons rate rates ih =>
      obtain ⟨rate, o⟩ := rate
      obtain ⟨l, -, -, hentry, hsteps, hlaunched⟩ := step_eq s rate o
      rcases hstep : s.step env args rate o with ⟨step, s'⟩
      rw [hstep] at hentry hsteps hlaunched
      simp only at hentry hsteps hlaunched
      simp only [sweepLoop, hstep]
      rcases hprint : printVerdict step with e | u
      · -- the entry is there, and the loop has ended
        have hnot : ¬Printable env args l := by
          rw [Printable, ← hentry, hprint]
          simp
        exact ⟨[l], hlaunched, hsteps, by simp [hnot]⟩
      · have hprintable : Printable env args l := by
          rw [Printable, ← hentry, hprint]
        dsimp only
        split_ifs
        · exact ⟨[l], hlaunched, hsteps, by simp [hprintable]⟩
        · obtain ⟨ls, hlaunched', hsteps', hraised⟩ := ih s'
          refine ⟨l :: ls, ?_, ?_, ?_⟩
          · simp [hlaunched', hlaunched]
          · simp [hsteps', hsteps]
          · simp [hraised, hprintable]

/-- The report of a run has an entry per step, and calls a step sustained only if the process of the
step wrote the report it was judged by, which meets the criteria. -/
def EarnedBy (env : SweepEnv) (args : SweepArgs) (step : StepResult) (l : Launched) : Prop :=
  step.rate = l.rate ∧ (step.sustained = true → ∃ r, l.outcome.effect = .wrote r ∧
    step = .judged (judge env.fmt args l.rate r) ∧ Criteria args r)

/-- `main` writes a report, which judges the processes of the run. -/
def JudgesOwn (env : SweepEnv) (args : SweepArgs) (run : SweepRun) : Prop :=
  ∃ report, run.result = .ok report ∧
    List.Forall₂ (EarnedBy env args) report.steps run.final.launched

/-- The process of the step writes a report, which shows what it passes for; or it leaves an older
one, which does not pass. -/
def Covered (args : SweepArgs) (l : Launched) : Prop :=
  (∃ r, l.outcome.effect = .wrote r ∧ (Passes args r → Shown args r)) ∨
    l.outcome.effect = .untouched ∧ ∃ r, l.before = .report r ∧ ¬Passes args r

/-- **One step**: its entry is printable and earned iff the step is covered. -/
theorem covered_iff {l : Launched} :
    Printable env args l ∧ EarnedBy env args (entryOf env args l) l ↔ Covered args l := by
  rw [printable_iff]
  constructor
  · rintro ⟨⟨r, hr⟩, -, hearned⟩
    rw [entryOf_report hr] at hearned
    rcases apply_eq_report_iff.mp hr with hwrote | ⟨huntouched, hbefore⟩
    · refine Or.inl ⟨r, hwrote, fun hpasses => ?_⟩
      obtain ⟨r', hwrote', -, hcriteria⟩ :=
        hearned (List.isEmpty_iff.mpr (reasons_eq_nil_iff.mpr hpasses))
      rw [hwrote, Effect.wrote.injEq] at hwrote'
      rw [← criteria_iff hpasses, hwrote']
      exact hcriteria
    · refine Or.inr ⟨huntouched, r, hbefore, fun hpasses => ?_⟩
      obtain ⟨r', hwrote', -⟩ := hearned (List.isEmpty_iff.mpr (reasons_eq_nil_iff.mpr hpasses))
      simp [huntouched] at hwrote'
  · rintro (⟨r, hwrote, hshown⟩ | ⟨huntouched, r, hbefore, hnot⟩)
    · have hr : l.outcome.effect.apply l.before = .report r := by
        rw [hwrote]
        rfl
      rw [entryOf_report hr]
      refine ⟨⟨r, hr⟩, rfl, fun hsustained => ⟨r, hwrote, rfl, ?_⟩⟩
      have hpasses := reasons_eq_nil_iff.mp (List.isEmpty_iff.mp hsustained)
      exact (criteria_iff hpasses).mpr (hshown hpasses)
    · have hr : l.outcome.effect.apply l.before = .report r := by
        rw [huntouched]
        exact hbefore
      rw [entryOf_report hr]
      refine ⟨⟨r, hr⟩, rfl, fun hsustained => ?_⟩
      exact absurd (reasons_eq_nil_iff.mp (List.isEmpty_iff.mp hsustained)) hnot

/-- **A sweep judges its own processes iff each of its steps is covered.** -/
theorem judgesOwn_iff (files : Files) (rates : List (ℚ × Outcome)) :
    JudgesOwn env args (sweepMain env args files rates) ↔
      ∀ l ∈ (sweepMain env args files rates).final.launched, Covered args l := by
  obtain ⟨ls, hlaunched, hsteps, hraised⟩ := sweepLoop_spec rates ⟨files, 0, [], []⟩
  rcases hloop : sweepLoop env args rates ⟨files, 0, [], []⟩ with ⟨s, raised⟩
  rw [hloop] at hlaunched hsteps hraised
  simp only [List.nil_append] at hlaunched hsteps hraised
  have hall : (∀ l ∈ ls, Covered args l) ↔
      (∀ l ∈ ls, Printable env args l) ∧ ∀ l ∈ ls, EarnedBy env args (entryOf env args l) l := by
    rw [← forall₂_and]
    exact forall₂_congr fun _ _ => covered_iff.symm
  rw [JudgesOwn, sweepMain, hloop]
  rcases raised with _ | e
  · simp only [hlaunched, hsteps, hall, Except.ok.injEq, exists_eq_left',
      List.forall₂_map_left_iff, List.forall₂_same]
    exact (and_iff_right (hraised.mp rfl)).symm
  · have hnot : ¬∀ l ∈ ls, Printable env args l := fun h => by simpa using hraised.mpr h
    simp [hlaunched, hall, hnot]

end run

/-- One step without a report: the loop raises. One step with a report of an earlier sweep: it is
called sustained, although its process failed. -/
theorem step_misjudged :
    (sweepMain sampleEnv sampleArgs (fun _ => .missing) [(500, ⟨1, .untouched⟩)]).result =
        .error ⟨"KeyError", "'failed_because'", [.keyError]⟩ ∧
      ¬JudgesOwn sampleEnv sampleArgs
        (sweepMain sampleEnv sampleArgs (fun _ => .report (sampleReport true))
          [(500, ⟨1, .untouched⟩)]) := by
  constructor
  · simp [sweepMain, sweepLoop, Sweep.step, runStep, Files.run, Files.load, Effect.apply,
      printVerdict, StepResult.sustained, StepResult.failedBecause, bind, Except.bind]
  · have hloop : sweepLoop sampleEnv sampleArgs [(500, ⟨1, .untouched⟩)]
        ⟨fun _ => .report (sampleReport true), 0, [], []⟩ =
          (⟨fun _ => .report (sampleReport true), 0, [sampleStep true],
            [⟨500, .report (sampleReport true), ⟨1, .untouched⟩⟩]⟩, none) := by
      have hrun : runStep sampleEnv sampleArgs 500 (fun _ => .report (sampleReport true))
          ⟨1, .untouched⟩ = (sampleStep true, fun _ => .report (sampleReport true)) := by
        simp [runStep, Files.run, Files.load, Effect.apply, sampleStep]
      simp [sweepLoop, Sweep.step, hrun, printVerdict, sustained_sample]
    rintro ⟨report, hresult, hearned⟩
    rw [sweepMain, hloop] at hresult hearned
    obtain rfl := Except.ok.inj hresult
    obtain ⟨r, hwrote, -⟩ := (List.forall₂_cons.mp hearned).1.2 sustained_sample
    cases hwrote

end TripPipeline.Bench
