import TripPipeline.Streaming.Survive

/-!
# The attempt budget of a statement

`max_attempts` is shared by two mechanisms: the fast path spends the first attempt, and the retry
loop gets `max(1, max_attempts - 1)`. The number of executions is read off the timeline, so it is
defined for a run that ends in an exception, too.

* `timesExecuted_of_passes`: once by the fast path, and by the retry loop as often as its trial has
  calls.
* `respectsBudget_iff`: when the budget is kept. The clamp gives a statement that is retried two
  attempts, also with `max_attempts = 1`.
-/

namespace TripPipeline.Streaming

open TripPipeline.Common TripPipeline.Lib

section budget

variable (env : SinkEnv) (conf : SinkConf)

/-! ## Executions -/

/-- The executions of a partition, whether the writer ends normally or not. -/
def executions (rows : List StreamRow) : List Execution :=
  (timeline env conf rows).moments.filterMap Moment.execution?

/-- How often a statement was executed. -/
def timesExecuted (rows : List StreamRow) (o : Origin) : ℕ :=
  (executions env conf rows).countP fun x => decide (x.origin = o)

/-- When the writer ends normally, they are the log. -/
theorem executions_of_run {rows : List StreamRow} {run : PartitionRun}
    (h : writePartition env conf rows = .ok run) : executions env conf rows = run.log := by
  have htimeline := writePartition_timeline env conf rows
  rw [h] at htimeline
  exact htimeline.2.symm

/-- A failure that is not `PERMANENT` enters the retry loop. -/
theorem lateTrace_of_retried {w : Work} (h : Retried env w) :
    (lateTrace env conf w).moments = (retryCall env conf w).2.map (Moment.mk w.origin) := by
  obtain ⟨e, he, hperm⟩ := h
  simp [lateTrace, failure?, he, retryTrace, hperm]

/-- Other statements are not executed again. -/
theorem lateTrace_of_not_retried {w : Work} (h : ¬Retried env w) :
    (lateTrace env conf w).moments = [] := by
  unfold lateTrace failure?
  cases he : env.outcome w.pos w.stmt.key 0 with
  | ok u => rfl
  | error e =>
      have hperm : e.isInstance permanent = true := by
        by_contra hnot
        exact h ⟨e, he, Bool.not_eq_true _ ▸ hnot⟩
      simp [retryTrace, hperm]

/-- The retry path of a statement executes what its trial does. -/
theorem executions_lateTrace {w : Work} (h : Retried env w) :
    (lateTrace env conf w).moments.filterMap Moment.execution? = retryExecutions env conf w := by
  rw [lateTrace_of_retried env conf h, List.filterMap_map, ← retryCall_executions]
  rfl

/-- A moment on the timeline belongs to a statement, and so does its execution. -/
theorem exists_statement_of_moment {rows : List StreamRow} {m : Moment}
    (hm : m ∈ (timeline env conf rows).moments) :
    ∃ w ∈ statements env conf rows, m.origin = w.origin ∧
      ∀ x, m.execution? = some x → x.origin = w.origin := by
  rw [timeline_eq] at hm
  obtain ⟨t, ht, hm⟩ := Trace.mem_all hm
  obtain ⟨chunk, hchunk, ht⟩ := List.mem_flatMap.mp ht
  have hmem : ∀ w ∈ chunkWork env conf chunk, w ∈ statements env conf rows :=
    fun w hw => List.mem_flatMap.mpr ⟨chunk, hchunk, hw⟩
  rcases List.mem_cons.mp ht with rfl | ht
  · obtain ⟨w, hw, rfl⟩ := List.mem_map.mp hm
    refine ⟨w, hmem w hw, rfl, fun x hx => ?_⟩
    rw [← Option.some.inj hx]
    rfl
  · obtain ⟨w, hw, rfl⟩ := List.mem_map.mp ht
    refine ⟨w, hmem w hw, lateTrace_origin env conf hm, fun x hx => ?_⟩
    by_cases hretried : Retried env w
    · have hx : x ∈ retryExecutions env conf w := by
        rw [← executions_lateTrace env conf hretried]
        exact List.mem_filterMap.mpr ⟨m, hm, hx⟩
      obtain ⟨hrow, hstmt, -⟩ := mem_retryExecutions env conf hx
      rw [Execution.origin, hrow, hstmt]
      rfl
    · rw [lateTrace_of_not_retried env conf hretried] at hm
      exact absurd hm List.not_mem_nil

/-- Every execution is one of a statement. -/
theorem exists_statement_of_execution {rows : List StreamRow} {x : Execution}
    (hx : x ∈ executions env conf rows) : ∃ w ∈ statements env conf rows, x.origin = w.origin := by
  obtain ⟨m, hm, hx⟩ := List.mem_filterMap.mp hx
  obtain ⟨w, hw, -, horigin⟩ := exists_statement_of_moment env conf hm
  exact ⟨w, hw, horigin x hx⟩

/-- Counting executions by statement is counting among its own moments. -/
theorem countP_executions {ms : List Moment} {o : Origin}
    (h : ∀ m ∈ ms, ∀ x, m.execution? = some x → x.origin = m.origin) :
    (ms.filterMap Moment.execution?).countP (fun x => decide (x.origin = o)) =
      ((ms.filter (Moment.isOf o)).filterMap Moment.execution?).length := by
  induction ms with
  | nil => rfl
  | cons m ms ih =>
      obtain ⟨hm, hms⟩ := List.forall_mem_cons.mp h
      cases hx : m.execution? with
      | none =>
          rw [List.filterMap_cons_none hx, ih hms, List.filter_cons]
          split_ifs
          · rw [List.filterMap_cons_none hx]
          · rfl
      | some x =>
          have horigin := hm x hx
          rw [List.filterMap_cons_some hx, List.countP_cons, ih hms, List.filter_cons]
          by_cases ho : m.origin = o
          · have hof : m.isOf o = true := decide_eq_true ho
            simp [hof, hx, horigin.trans ho]
          · have hof : m.isOf o = false := decide_eq_false ho
            simp [hof, horigin, ho]

/-- A statement is executed as often as its own timeline says. -/
theorem timesExecuted_eq (rows : List StreamRow) (w : Work) :
    timesExecuted env conf rows w.origin =
      ((own env conf rows w).filterMap Moment.execution?).length := by
  refine countP_executions fun m hm x hx => ?_
  obtain ⟨v, -, hmoment, hexecution⟩ := exists_statement_of_moment env conf hm
  rw [hexecution x hx, hmoment]

section place

variable {rows : List StreamRow} {pre post : List Work} {w : Work}

/-- **A statement that is reached** is executed once by the fast path, and in its retry loop. -/
theorem timesExecuted_of_passes (h : statements env conf rows = pre ++ w :: post)
    (hpre : ∀ v ∈ pre, ¬Escapes env conf v) :
    timesExecuted env conf rows w.origin =
      ((lateTrace env conf w).moments.filterMap Moment.execution?).length + 1 := by
  have hpasses : ∀ v ∈ pre, Passes env conf v :=
    fun v hv => (passes_iff env conf v).mpr (hpre v hv)
  rw [timesExecuted_eq, (own_timeline env conf h).1 hpasses]
  rfl

/-- After an exception that escaped there are no retries. -/
theorem timesExecuted_of_escapes (h : statements env conf rows = pre ++ w :: post)
    (hpre : ∃ v ∈ pre, Escapes env conf v) : timesExecuted env conf rows w.origin ≤ 1 := by
  obtain ⟨v, hv, hescapes⟩ := hpre
  have hfails : ¬Passes env conf v := fun hpass => (passes_iff env conf v).mp hpass hescapes
  rw [timesExecuted_eq]
  rcases (own_timeline env conf h).2 ⟨v, hv, hfails⟩ with hown | hown <;> rw [hown]
  · exact Nat.zero_le 1
  · exact le_refl 1

end place

/-! ## The budget -/

/-- Every attempt of the statement fails with a retryable error. An error that is `PERMANENT` is
never retried, whatever else it is. -/
def KeepsFailing (w : Work) : Prop :=
  ∀ n, ∃ e, env.outcome w.pos w.stmt.key n = .error e ∧ e.isInstance retryable = true ∧
    e.isInstance permanent = false

/-- A statement that keeps failing gets to the retry path. -/
theorem KeepsFailing.retried {env : SinkEnv} {w : Work} (h : KeepsFailing env w) :
    Retried env w := by
  obtain ⟨e, he, -, hperm⟩ := h 0
  exact ⟨e, he, hperm⟩

/-- A trial calls at most as often as it may. -/
theorem calls_le (w : Work) :
    (retryTrial env conf w).calls ≤ attemptBudget (retryPolicy conf.retry) := by
  have hle := trial_calls_le (fun k => env.outcome w.pos w.stmt.key (k + 1)) retryable permanent
    (attemptBudget (retryPolicy conf.retry) - 1) 0
  rwa [Nat.sub_add_cancel (attemptBudget_pos _)] at hle

variable {env} in
/-- The outcomes of its retry loop are listed, and none of them stops the loop. -/
theorem KeepsFailing.outcomes {w : Work} (h : KeepsFailing env w) :
    Listed (fun k => env.outcome w.pos w.stmt.key (k + 1)) retryable permanent ∧
      ∀ k, stops permanent (env.outcome w.pos w.stmt.key (k + 1)) = false := by
  refine ⟨fun k e he => ?_, fun k => ?_⟩
  · obtain ⟨e', he', hretry, -⟩ := h (k + 1)
    rw [← Except.error.inj (he'.symm.trans he)]
    exact Or.inr hretry
  · obtain ⟨e, he, -, hperm⟩ := h (k + 1)
    rw [he]
    exact hperm

variable {env} in
/-- A statement that keeps failing uses up its attempts. -/
theorem KeepsFailing.calls {w : Work} (h : KeepsFailing env w) :
    (retryTrial env conf w).calls = attemptBudget (retryPolicy conf.retry) := by
  obtain ⟨hlisted, hstops⟩ := h.outcomes
  rw [retryTrial, trial_calls hlisted (attemptBudget_pos _), callCount_of_not_stops hstops]

/-- The retry path executes once for each call. -/
theorem length_retryExecutions (w : Work) :
    (retryExecutions env conf w).length = (retryTrial env conf w).calls := by
  simp [retryExecutions]

/-- The attempts of the retry loop. -/
theorem attemptBudget_retryPolicy (cfg : RetryConfig) :
    (attemptBudget (retryPolicy cfg) : ℤ) = max 1 (cfg.maxAttempts - 1) := by
  simp [attemptBudget, retryPolicy]

/-- What the attempt budget promises about a partition. -/
structure RespectsBudget (rows : List StreamRow) : Prop where
  /-- No statement is executed more often than the budget allows. -/
  atMost : ∀ w ∈ statements env conf rows,
    (timesExecuted env conf rows w.origin : ℤ) ≤ conf.retry.maxAttempts
  /-- A statement that keeps failing uses the budget up. -/
  exactly : ∀ w ∈ statements env conf rows, KeepsFailing env w →
    (timesExecuted env conf rows w.origin : ℤ) = conf.retry.maxAttempts

variable {env conf} {rows : List StreamRow}

/-- With a budget of one attempt nothing may be retried. -/
theorem RespectsBudget.not_retried (h : RespectsBudget env conf rows)
    (hone : conf.retry.maxAttempts = 1) : ∀ w ∈ statements env conf rows, ¬Retried env w := by
  classical
  intro w hw hretried
  -- the first statement that is retried is reached
  obtain ⟨pre, v, post, hsplit, hpre, hv⟩ := exists_first ⟨w, hw, hretried⟩
  have hmem : v ∈ statements env conf rows := hsplit ▸ List.mem_append_cons_self
  have htimes := timesExecuted_of_passes env conf hsplit fun u hu hescapes => hpre u hu hescapes.1
  rw [executions_lateTrace env conf hv, length_retryExecutions] at htimes
  have hle := h.atMost v hmem
  have hpos : 0 < (retryTrial env conf v).calls := Trial.calls_pos _ _ _ _ _
  rw [htimes, hone] at hle
  omega

/-- **When the sink respects the attempt budget.** -/
theorem respectsBudget_iff (hmax : 1 ≤ conf.retry.maxAttempts) :
    RespectsBudget env conf rows ↔
      (2 ≤ conf.retry.maxAttempts ∨ ∀ w ∈ statements env conf rows, ¬Retried env w) ∧
        ∀ pre w post, statements env conf rows = pre ++ w :: post → KeepsFailing env w →
          ∀ v ∈ pre, ¬Escapes env conf v := by
  have hbudget := attemptBudget_retryPolicy conf.retry
  constructor
  · intro h
    have hfirst : 2 ≤ conf.retry.maxAttempts ∨ ∀ w ∈ statements env conf rows, ¬Retried env w := by
      by_cases htwo : 2 ≤ conf.retry.maxAttempts
      · exact Or.inl htwo
      · exact Or.inr (h.not_retried (by omega))
    refine ⟨hfirst, fun pre w post hsplit hkeeps v hv hescapes => ?_⟩
    have hmem : w ∈ statements env conf rows := hsplit ▸ List.mem_append_cons_self
    have htwo : 2 ≤ conf.retry.maxAttempts := hfirst.resolve_right fun hnone =>
      hnone w hmem hkeeps.retried
    have hle := timesExecuted_of_escapes env conf hsplit ⟨v, hv, hescapes⟩
    have hexact := h.exactly w hmem hkeeps
    omega
  · rintro ⟨hfirst, hreached⟩
    have htwo : ∀ w ∈ statements env conf rows, Retried env w → 2 ≤ conf.retry.maxAttempts :=
      fun w hw hretried => hfirst.resolve_right fun hnone => hnone w hw hretried
    refine ⟨fun w hw => ?_, fun w hw hkeeps => ?_⟩
    · obtain ⟨pre, post, hsplit⟩ := List.append_of_mem hw
      by_cases hpre : ∃ v ∈ pre, Escapes env conf v
      · have hle := timesExecuted_of_escapes env conf hsplit hpre
        omega
      · have htimes := timesExecuted_of_passes env conf hsplit (by simpa using hpre)
        by_cases hretried : Retried env w
        · have hle := calls_le env conf w
          rw [executions_lateTrace env conf hretried, length_retryExecutions] at htimes
          have := htwo w hw hretried
          omega
        · rw [lateTrace_of_not_retried env conf hretried] at htimes
          simp only [List.filterMap_nil, List.length_nil] at htimes
          omega
    · obtain ⟨pre, post, hsplit⟩ := List.append_of_mem hw
      have htimes := timesExecuted_of_passes env conf hsplit (hreached pre w post hsplit hkeeps)
      rw [executions_lateTrace env conf hkeeps.retried, length_retryExecutions,
        hkeeps.calls] at htimes
      have := htwo w hw hkeeps.retried
      omega

end budget

/-! ## One attempt -/

/-- `max_attempts = 1`. -/
def singleConf : SinkConf := { sampleConf with retry := ⟨[1000, 2000], 1, 0⟩ }

/-- With five attempts a row that times out once stays within the budget. -/
theorem respectsBudget_iff_flaky :
    RespectsBudget flakyEnv sampleConf [sampleRow] ↔
      (2 ≤ sampleConf.retry.maxAttempts ∨
          ∀ w ∈ statements flakyEnv sampleConf [sampleRow], ¬Retried flakyEnv w) ∧
        ∀ pre w post, statements flakyEnv sampleConf [sampleRow] = pre ++ w :: post →
          KeepsFailing flakyEnv w → ∀ v ∈ pre, ¬Escapes flakyEnv sampleConf v :=
  respectsBudget_iff (by decide)

/-- With a budget of one attempt, a statement that times out is executed twice. -/
theorem singleConf_executes_twice :
    singleConf.retry.maxAttempts = 1 ∧ ¬RespectsBudget flakyEnv singleConf [sampleRow] := by
  refine ⟨rfl, fun h => ?_⟩
  obtain ⟨w, hw⟩ := exists_sampleStatement flakyEnv singleConf rfl
  exact h.not_retried rfl w hw ⟨_, rfl, rfl⟩

end TripPipeline.Streaming
