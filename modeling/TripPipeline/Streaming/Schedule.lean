import TripPipeline.Streaming.Budget

/-!
# The backoff of a statement

The first execution of a statement is made by the fast path, and its retry loop starts the schedule
over. So the first retry comes without a pause, and every later pause is that of the retry before.

* `pauses_own`: the pauses between the executions of a statement that keeps failing. Only the sleeps
  of its own loop count; the loops of other statements may run in between.
* `followsSchedule_iff`: they are those of the schedule iff the entries that are used are zero.
-/

namespace TripPipeline.Streaming

open TripPipeline.Common TripPipeline.Lib

/-- The time slept between the executions of a statement is what the schedule says, as it is for one
plain call (`follows_sleepCall`). -/
def FollowsSchedule (env : SinkEnv) (conf : SinkConf) (rows : List StreamRow) (w : Work) : Prop :=
  Follows conf.retry.backoffScheduleMs (pauses ((own env conf rows w).map Moment.beat))

section backoff

variable {env : SinkEnv} {conf : SinkConf} {rows : List StreamRow} {pre post : List Work} {w : Work}

/-- The calls and sleeps of a statement that is reached and retried. -/
theorem beats_own (h : statements env conf rows = pre ++ w :: post)
    (hpre : ∀ v ∈ pre, ¬Escapes env conf v) (hretried : Retried env w) :
    ∃ x, (own env conf rows w).map Moment.beat = .call x :: (retryCall env conf w).2 := by
  have hpasses : ∀ v ∈ pre, Passes env conf v :=
    fun v hv => (passes_iff env conf v).mpr (hpre v hv)
  refine ⟨⟨w.pos, w.stmt, 0, (env.outcome w.pos w.stmt.key 0).isOk⟩, ?_⟩
  rw [(own_timeline env conf h).1 hpasses, lateTrace_of_retried env conf hretried, List.map_cons,
    List.map_map]
  exact congrArg _ (List.map_id _)

/-- **The pauses of a statement that keeps failing**: nothing, then the schedule from its start. -/
theorem pauses_own (h : statements env conf rows = pre ++ w :: post)
    (hpre : ∀ v ∈ pre, ¬Escapes env conf v) (hjitter : conf.retry.jitterRatio = 0)
    (hkeeps : KeepsFailing env w) :
    pauses ((own env conf rows w).map Moment.beat) =
      0 :: (List.range' 0 (attemptBudget (retryPolicy conf.retry) - 1)).map
        fun k => max 0 ((scheduled conf.retry.backoffScheduleMs k : ℚ) / 1000) := by
  obtain ⟨x, hbeats⟩ := beats_own h hpre hkeeps.retried
  have hcalls : (retryTrial env conf w).calls = attemptBudget (retryPolicy conf.retry) - 1 + 1 := by
    rw [hkeeps.calls, Nat.sub_add_cancel (attemptBudget_pos _)]
  rw [hbeats, retryCall_eq, hcalls]
  show pausesFrom 0 _ = _
  rw [pausesFrom_spaced]
  refine congrArg _ (List.map_congr_left fun k _ => ?_)
  have hdelay : delayMs (retryPolicy conf.retry) (env.draw w.pos w.stmt.key k) k =
      scheduled conf.retry.backoffScheduleMs k := delayMs_scheduled hjitter _ k
  rw [hdelay]

/-- A statement that is reached follows the schedule iff it says not to wait. -/
theorem followsSchedule_of_reached (h : statements env conf rows = pre ++ w :: post)
    (hpre : ∀ v ∈ pre, ¬Escapes env conf v) (hsched : conf.retry.backoffScheduleMs ≠ [])
    (hjitter : conf.retry.jitterRatio = 0) (hkeeps : KeepsFailing env w) :
    FollowsSchedule env conf rows w ↔
      ∀ ms ∈ conf.retry.backoffScheduleMs.take (attemptBudget (retryPolicy conf.retry)),
        ms = 0 := by
  have hpos := attemptBudget_pos (retryPolicy conf.retry)
  rw [FollowsSchedule, pauses_own h hpre hjitter hkeeps, follows_shifted_iff,
    ← scheduled_eq_zero_iff hsched]
  constructor
  · intro hzero i hi
    apply hzero
    omega
  · intro hzero i hi
    apply hzero
    omega

/-- After an exception that escaped there are no pauses. -/
theorem followsSchedule_of_escapes (h : statements env conf rows = pre ++ w :: post)
    (hpre : ∃ v ∈ pre, Escapes env conf v) : FollowsSchedule env conf rows w := by
  obtain ⟨v, hv, hescapes⟩ := hpre
  have hfails : ¬Passes env conf v := fun hpass => (passes_iff env conf v).mp hpass hescapes
  intro i q hq
  rcases (own_timeline env conf h).2 ⟨v, hv, hfails⟩ with hown | hown
  · simp [hown, pauses] at hq
  · simp [hown, firstMoment, pauses, pausesFrom] at hq

/-- **When the sink follows its schedule.** -/
theorem followsSchedule_iff (h : statements env conf rows = pre ++ w :: post)
    (hsched : conf.retry.backoffScheduleMs ≠ []) (hjitter : conf.retry.jitterRatio = 0)
    (hkeeps : KeepsFailing env w) :
    FollowsSchedule env conf rows w ↔
      (∃ v ∈ pre, Escapes env conf v) ∨
        ∀ ms ∈ conf.retry.backoffScheduleMs.take (attemptBudget (retryPolicy conf.retry)),
          ms = 0 := by
  by_cases hpre : ∃ v ∈ pre, Escapes env conf v
  · exact iff_of_true (followsSchedule_of_escapes h hpre) (Or.inl hpre)
  · rw [followsSchedule_of_reached h (by simpa using hpre) hsched hjitter hkeeps, or_iff_right hpre]

end backoff

/-! ## An outage -/

/-- Every execution times out. -/
def outageEnv : SinkEnv :=
  { flakyEnv with outcome := fun _ _ _ => .error ⟨"WriteTimeout", "timed out", [.writeTimeout]⟩ }

/-- In the outage every statement keeps failing. -/
theorem outageEnv_keepsFailing (w : Work) : KeepsFailing outageEnv w := fun _ => ⟨_, rfl, rfl, rfl⟩

/-- In the outage no exception escapes. -/
theorem outageEnv_not_escapes (w : Work) : ¬Escapes outageEnv sampleConf w := by
  apply not_escapes_of_listed
  intro row t n e he
  rw [← Except.error.inj he]
  exact Or.inl rfl

/-- The general result at the outage. -/
theorem followsSchedule_iff_outage :
    ∃ pre w post, statements outageEnv sampleConf [sampleRow] = pre ++ w :: post ∧
      (FollowsSchedule outageEnv sampleConf [sampleRow] w ↔
        (∃ v ∈ pre, Escapes outageEnv sampleConf v) ∨
          ∀ ms ∈ sampleConf.retry.backoffScheduleMs.take
            (attemptBudget (retryPolicy sampleConf.retry)), ms = 0) := by
  obtain ⟨w, hw⟩ := exists_sampleStatement outageEnv sampleConf rfl
  obtain ⟨pre, post, hsplit⟩ := List.append_of_mem hw
  exact ⟨pre, w, post, hsplit,
    followsSchedule_iff hsplit (List.cons_ne_nil _ _) rfl (outageEnv_keepsFailing w)⟩

/-- With the schedule of 1 and 2 seconds, the first retry of a statement comes at once. -/
theorem outage_unscheduled :
    ∃ w ∈ statements outageEnv sampleConf [sampleRow], KeepsFailing outageEnv w ∧
      ¬FollowsSchedule outageEnv sampleConf [sampleRow] w := by
  obtain ⟨w, hw⟩ := exists_sampleStatement outageEnv sampleConf rfl
  obtain ⟨pre, post, hsplit⟩ := List.append_of_mem hw
  refine ⟨w, hw, outageEnv_keepsFailing w, ?_⟩
  rw [followsSchedule_of_reached hsplit (fun v _ => outageEnv_not_escapes v)
    (List.cons_ne_nil _ _) rfl (outageEnv_keepsFailing w)]
  intro hzero
  have hfirst := hzero 1000 (by decide)
  cases hfirst

end TripPipeline.Streaming
