import TripPipeline.Streaming.Timeline

/-!
# Which driver errors a partition survives

The build phase catches everything and the first executions collect every exception, but a retry
loop knows two lists of classes. `Escapes` says, of the outcomes of one statement, when an exception
outside both leaves its loop, and with it `write_partition`.

* `passes_iff`: that is the only way for a statement not to be settled.
* `survives_iff`: a partition is written to its end, with its stats and with a record for every row
  that was not fully written, iff no statement lets an exception escape.
-/

namespace TripPipeline.Streaming

open TripPipeline.Common TripPipeline.Lib

/-! ## One statement -/

section statement

variable (env : SinkEnv) (conf : SinkConf)

/-- The first execution raises an exception that is not `PERMANENT`: the statement is retried. -/
def Retried (w : Work) : Prop :=
  ∃ e, env.outcome w.pos w.stmt.key 0 = .error e ∧ e.isInstance permanent = false

/-- The statement is retried, and an attempt of its retry loop raises an exception outside
`RETRYABLE` and `PERMANENT`, after `RETRYABLE` ones. -/
def Escapes (w : Work) : Prop :=
  Retried env w ∧ ∃ k < attemptBudget (retryPolicy conf.retry),
    EscapesAt (fun i => env.outcome w.pos w.stmt.key (i + 1)) retryable permanent k

/-- An exception escapes when the first outcome that ends the trial is listed nowhere. -/
theorem escaped_iff (w : Work) :
    (∃ e, (retryTrial env conf w).ending = .escaped e) ↔
      ∃ k < attemptBudget (retryPolicy conf.retry),
        EscapesAt (fun i => env.outcome w.pos w.stmt.key (i + 1)) retryable permanent k := by
  have hpos := attemptBudget_pos (retryPolicy conf.retry)
  rw [retryTrial, trial_escaped_iff]
  simp only [zero_add]
  refine exists_congr fun k => and_congr_left fun _ => ?_
  omega

/-- **A statement is settled unless an exception escapes from its retry loop.** -/
theorem passes_iff (w : Work) : Passes env conf w ↔ ¬Escapes env conf w := by
  have hescaped := escaped_iff env conf w
  unfold Passes Escapes Retried failure? Settles
  cases env.outcome w.pos w.stmt.key 0 with
  | ok u => simp
  | error e =>
      simp only [Option.some.injEq, forall_eq', Except.error.injEq, exists_eq_left', ← hescaped]
      cases e.isInstance permanent <;> simp

/-- From a sink that raises only what is listed nothing escapes. -/
theorem not_escapes_of_listed (hout : env.Listed) (w : Work) : ¬Escapes env conf w := by
  rintro ⟨-, k, -, ⟨e, he, hgive, hretry⟩, -⟩
  rcases hout _ _ _ _ he with h | h
  · rw [hretry] at h
    cases h
  · rw [hgive] at h
    cases h

end statement

/-! ## A partition -/

section partition

variable {env : SinkEnv} {conf : SinkConf} {rows : List StreamRow}

/-- What a partition that survives leaves behind. -/
structure Survived (env : SinkEnv) (conf : SinkConf) (rows : List StreamRow) (run : PartitionRun) :
    Prop where
  /-- The stats record is yielded, after records of the DLQ. -/
  stats : ∃ dlqs payload, run.yields = dlqs ++ [.stats payload] ∧ ∀ y ∈ dlqs, y.isDlq = true
  /-- Every row whose statements did not all succeed has a DLQ record. -/
  covered : ∀ item ∈ rows.zipIdx, ¬FullyWritten conf run item →
    Quarantined env.codec run.yields item

/-- `write_partition` finishes, and does what it owes its caller. -/
def Survives (env : SinkEnv) (conf : SinkConf) (rows : List StreamRow) : Prop :=
  ∃ run, writePartition env conf rows = .ok run ∧ Survived env conf rows run

/-- The writer finishes iff nothing was raised on its timeline. -/
theorem exists_run_iff :
    (∃ run, writePartition env conf rows = .ok run) ↔ (timeline env conf rows).raised = none := by
  have htimeline := writePartition_timeline env conf rows
  cases hrun : writePartition env conf rows with
  | ok run =>
      rw [hrun] at htimeline
      exact iff_of_true ⟨run, rfl⟩ htimeline.1
  | error e =>
      rw [hrun] at htimeline
      have hraised : (timeline env conf rows).raised = some e := htimeline
      rw [hraised]
      exact iff_of_false (by simp) (Option.some_ne_none e)

/-- A partition that is written to its end has survived. -/
theorem survived_of_run {run : PartitionRun} (h : writePartition env conf rows = .ok run) :
    Survived env conf rows run := by
  refine ⟨?_, fun item hitem hnot => (written_or_quarantined env conf h hitem).resolve_left hnot⟩
  obtain ⟨s, rfl, hsettles, htally⟩ := writePartition_tally env conf h
  have hbalanced := balanced_total env conf hsettles
  rw [← htally] at hbalanced
  exact ⟨s.yields, s.payload, rfl, (card_quarantined hbalanced.others).2⟩

/-- **A partition survives iff no statement lets an exception escape from its retry loop.** -/
theorem survives_iff (env : SinkEnv) (conf : SinkConf) (rows : List StreamRow) :
    Survives env conf rows ↔ ∀ w ∈ statements env conf rows, ¬Escapes env conf w := by
  have hpasses : (∀ w ∈ statements env conf rows, ¬Escapes env conf w) ↔
      ∀ w ∈ statements env conf rows, Passes env conf w :=
    forall₂_congr fun w _ => (passes_iff env conf w).symm
  rw [hpasses, ← raised_timeline, ← exists_run_iff]
  constructor
  · rintro ⟨run, hrun, -⟩
    exact ⟨run, hrun⟩
  · rintro ⟨run, hrun⟩
    exact ⟨run, hrun, survived_of_run hrun⟩

end partition

/-! ## A write failure after a timeout -/

/-- The sample row has a statement. -/
theorem exists_sampleStatement (env : SinkEnv) (conf : SinkConf) (h : conf.tables = coreTables) :
    ∃ w, w ∈ statements env conf [sampleRow] := by
  have hbuilt : (⟨0, some .tripsById⟩ : Origin) ∈ [sampleRow].zipIdx.flatMap
      (builtStatements sampleConf) := by
    decide +kernel
  have hconf : builtStatements conf = builtStatements sampleConf := by
    funext item
    simp only [builtStatements, rowWork, h, sampleConf]
  rw [← hconf, ← statements_origin env conf] at hbuilt
  obtain ⟨w, hw, -⟩ := List.mem_map.mp hbuilt
  exact ⟨w, hw⟩

/-- The first execution of every statement times out, the second is answered with a
`WriteFailure`, which is in neither list. -/
def brokenEnv : SinkEnv :=
  { flakyEnv with
    outcome := fun _ _ n =>
      if n = 0 then .error ⟨"WriteTimeout", "timed out", [.writeTimeout]⟩
      else .error ⟨"WriteFailure", "replica failed", []⟩ }

/-- Every statement lets it escape, whatever the row. -/
theorem brokenEnv_escapes (w : Work) : Escapes brokenEnv sampleConf w := by
  refine ⟨⟨_, rfl, by decide⟩, 0, attemptBudget_pos _, ⟨_, rfl, by decide, by decide⟩, ?_⟩
  intro i hi
  exact absurd hi (Nat.not_lt_zero i)

/-- One such statement ends the whole partition: no stats record, no DLQ record. -/
theorem writeFailure_escapes :
    (∃ e, writePartition brokenEnv sampleConf [sampleRow] = .error e) ∧
      ¬Survives brokenEnv sampleConf [sampleRow] := by
  have hnone : ¬∃ run, writePartition brokenEnv sampleConf [sampleRow] = .ok run := by
    rw [exists_run_iff, raised_timeline]
    intro hpasses
    obtain ⟨w, hw⟩ := exists_sampleStatement brokenEnv sampleConf rfl
    exact (passes_iff brokenEnv sampleConf w).mp (hpasses w hw) (brokenEnv_escapes w)
  refine ⟨?_, fun ⟨run, hrun, _⟩ => hnone ⟨run, hrun⟩⟩
  cases hrun : writePartition brokenEnv sampleConf [sampleRow] with
  | ok run => exact absurd ⟨run, hrun⟩ hnone
  | error e => exact ⟨e, rfl⟩

end TripPipeline.Streaming
