import TripPipeline.Common.Contract

/-!
# The pauses of a retry loop

`call_with_retry` hands its waits to `sleep`. `sleepLoop` is the loop with the effect of that call,
so that calls and sleeps appear in one order, as `Beat`s.

* `pauses` is the time slept between consecutive calls.
* `sleepLoop_beats`: calls and sleeps alternate as in `spaced`, and the loop ends as its trial does.
* `follows_sleepCall`: a plain call that keeps failing follows its schedule from the first entry on.
-/

namespace TripPipeline.Common

open TripPipeline.Lib

variable {σ α μ : Type}

/-! ## The loop with its `sleep` -/

/-- `call_with_retry` with its `sleep`. The accumulators, which decide nothing, are left to
`callLoop`.
Source: `common/retry.py` `call_with_retry` -/
def sleepLoop (fn : ℕ → σ → Except Exc α × σ) (sleep : ℚ → σ → σ) (cfg : RetryConfig)
    (retryOn giveUpOn : List ExcType) (draw : ℕ → ℚ) (maxAttempts : ℕ) :
    (left attempt : ℕ) → σ → CallResult α × σ
  | left, attempt, s =>
      match fn attempt s with
      | (.ok a, s) => (.returned a, s)
      | (.error e, s) =>
          if e.isInstance giveUpOn then (.exhausted (attempt + 1) e, s)
          else if e.isInstance retryOn then
            match left with
            | 0 => (.exhausted maxAttempts e, s)
            | left + 1 =>
                let waitMs := delayMs cfg (draw attempt) attempt
                sleepLoop fn sleep cfg retryOn giveUpOn draw maxAttempts left (attempt + 1)
                  (if 0 < waitMs then sleep (waitMs / 1000) s else s)
          else (.raised e, s)

/-- The whole call. -/
def sleepCall (fn : ℕ → σ → Except Exc α × σ) (sleep : ℚ → σ → σ) (cfg : RetryConfig)
    (retryOn giveUpOn : List ExcType) (draw : ℕ → ℚ) (s : σ) : CallResult α × σ :=
  sleepLoop fn sleep cfg retryOn giveUpOn draw (attemptBudget cfg) (attemptBudget cfg - 1) 0 s

/-! ## Beats -/

/-- A call, or a sleep in seconds. -/
inductive Beat (μ : Type) where
  | call (x : μ)
  | slept (seconds : ℚ)

/-- The calls. -/
def Beat.call? : Beat μ → Option μ
  | .call x => some x
  | .slept _ => none

/-- The pauses after a call, when `t` seconds have been slept since. -/
def pausesFrom : (t : ℚ) → List (Beat μ) → List ℚ
  | _, [] => []
  | t, .call _ :: beats => t :: pausesFrom 0 beats
  | t, .slept seconds :: beats => pausesFrom (t + seconds) beats

/-- The time slept between consecutive calls. -/
def pauses : List (Beat μ) → List ℚ
  | [] => []
  | .call _ :: beats => pausesFrom 0 beats
  | .slept _ :: beats => pauses beats

/-- Calls from index `i` on, with sleeps in between. -/
def spaced (call : ℕ → μ) (pause : ℕ → ℚ) : (i calls : ℕ) → List (Beat μ)
  | _, 0 => []
  | i, 1 => [.call (call i)]
  | i, calls + 2 =>
      .call (call i) ::
        ((if 0 < pause i then [.slept (pause i)] else []) ++ spaced call pause (i + 1) (calls + 1))

/-- One more call in front, with the pause after it. -/
theorem spaced_succ (call : ℕ → μ) (pause : ℕ → ℚ) (i : ℕ) {calls : ℕ} (h : 0 < calls) :
    spaced call pause i (calls + 1) =
      .call (call i) ::
        ((if 0 < pause i then [.slept (pause i)] else []) ++ spaced call pause (i + 1) calls) := by
  obtain ⟨c, rfl⟩ : ∃ c, calls = c + 1 := ⟨calls - 1, by omega⟩
  rfl

/-- The calls among the beats are the calls, in order. -/
theorem calls_spaced (call : ℕ → μ) (pause : ℕ → ℚ) (i calls : ℕ) :
    (spaced call pause i calls).filterMap Beat.call? = (List.range' i calls).map call := by
  induction calls generalizing i with
  | zero => rfl
  | succ calls ih =>
      rcases Nat.eq_zero_or_pos calls with rfl | hpos
      · rfl
      · rw [spaced_succ call pause i hpos, List.range'_succ, List.map_cons, ← ih]
        split_ifs <;> rfl

/-- A sleep adds to the pause; one that is not positive is left out. -/
theorem pausesFrom_sleep (q : ℚ) (beats : List (Beat μ)) :
    pausesFrom 0 ((if 0 < q then [.slept q] else []) ++ beats) = pausesFrom (max 0 q) beats := by
  by_cases hq : 0 < q
  · rw [if_pos hq, max_eq_right hq.le]
    show pausesFrom (0 + q) beats = _
    rw [zero_add]
  · rw [if_neg hq, max_eq_left (not_lt.mp hq)]
    rfl

/-- What was slept before spaced calls, then what is slept between them. -/
theorem pausesFrom_spaced (call : ℕ → μ) (pause : ℕ → ℚ) (t : ℚ) (i calls : ℕ) :
    pausesFrom t (spaced call pause i (calls + 1)) =
      t :: (List.range' i calls).map fun k => max 0 (pause k) := by
  induction calls generalizing t i with
  | zero => rfl
  | succ calls ih =>
      rw [spaced_succ call pause i (Nat.succ_pos calls), List.range'_succ, List.map_cons, ← ih,
        ← pausesFrom_sleep]
      rfl

/-- **The pauses of spaced calls.** -/
theorem pauses_spaced (call : ℕ → μ) (pause : ℕ → ℚ) (i calls : ℕ) :
    pauses (spaced call pause i (calls + 1)) =
      (List.range' i calls).map fun k => max 0 (pause k) := by
  rcases calls with _ | calls
  · rfl
  · rw [spaced_succ call pause i (Nat.succ_pos calls), List.range'_succ, List.map_cons,
      ← pausesFrom_spaced call, ← pausesFrom_sleep]
    rfl

section loop

variable {out : ℕ → Except Exc α} {fn : ℕ → List (Beat μ) → Except Exc α × List (Beat μ)}
  {call : ℕ → μ}

/-- **Calls and sleeps alternate**, and the loop ends as its trial does. -/
theorem sleepLoop_beats (hfn : ∀ k beats, fn k beats = (out k, beats ++ [.call (call k)]))
    (cfg : RetryConfig) (retryOn giveUpOn : List ExcType) (draw : ℕ → ℚ)
    (maxAttempts left attempt : ℕ) (beats : List (Beat μ)) :
    sleepLoop fn (fun q beats => beats ++ [.slept q]) cfg retryOn giveUpOn draw maxAttempts left
        attempt beats =
      ((trial out retryOn giveUpOn left attempt).result maxAttempts attempt,
        beats ++ spaced call (fun k => delayMs cfg (draw k) k / 1000) attempt
          (trial out retryOn giveUpOn left attempt).calls) := by
  revert beats
  apply trial_rec (P := fun left attempt t => ∀ beats : List (Beat μ),
    sleepLoop fn (fun q beats => beats ++ [Beat.slept q]) cfg retryOn giveUpOn draw maxAttempts left
        attempt beats =
      (t.result maxAttempts attempt,
        beats ++ spaced call (fun k => delayMs cfg (draw k) k / 1000) attempt t.calls))
  case success =>
    intro left attempt a hout beats
    unfold sleepLoop
    rw [hfn, hout]
    rfl
  case gaveUp =>
    intro left attempt e hout hgive beats
    unfold sleepLoop
    simp only [hfn, hout, hgive, if_true]
    rfl
  case escaped =>
    intro left attempt e hout hgive hretry beats
    unfold sleepLoop
    simp only [hfn, hout, hgive, hretry, if_false, Bool.false_eq_true]
    rfl
  case spent =>
    intro attempt e hout hgive hretry beats
    unfold sleepLoop
    simp only [hfn, hout, hgive, hretry, if_true, if_false, Bool.false_eq_true]
    rfl
  case cons =>
    -- one more call, its sleep, then the rest of the loop
    intro left attempt e hout hgive hretry ih beats
    have hpos := Trial.calls_pos out retryOn giveUpOn left (attempt + 1)
    have hwait : (0 < delayMs cfg (draw attempt) attempt) ↔
        0 < delayMs cfg (draw attempt) attempt / 1000 := by
      rw [lt_div_iff₀ (by norm_num), zero_mul]
    rw [sleepLoop]
    simp only [hfn, hout, hgive, hretry, if_true, if_false, Bool.false_eq_true, ih,
      Trial.result_cons, Trial.calls_cons, spaced_succ _ _ _ hpos]
    by_cases hw : 0 < delayMs cfg (draw attempt) attempt
    · simp [hw, hwait.mp hw]
    · simp [hw, mt hwait.mpr hw]

/-- **A loop that keeps failing follows its schedule**: between its calls `i` and `i + 1` (from 0)
it sleeps `delay_ms(i)`. -/
theorem pauses_sleepCall (hfn : ∀ k beats, fn k beats = (out k, beats ++ [.call (call k)]))
    (cfg : RetryConfig) {retryOn giveUpOn : List ExcType} (draw : ℕ → ℚ)
    (hout : Listed out retryOn giveUpOn) (hfail : ∀ i, stops giveUpOn (out i) = false) :
    pauses (sleepCall fn (fun q beats => beats ++ [.slept q]) cfg retryOn giveUpOn draw []).2 =
      (List.range (attemptBudget cfg - 1)).map fun i => max 0 (delayMs cfg (draw i) i / 1000) := by
  have hcalls : (trial out retryOn giveUpOn (attemptBudget cfg - 1) 0).calls =
      attemptBudget cfg - 1 + 1 := by
    rw [trial_calls hout (attemptBudget_pos cfg), Nat.sub_add_cancel (attemptBudget_pos cfg),
      callCount_of_not_stops hfail]
  rw [sleepCall, sleepLoop_beats hfn, hcalls, List.nil_append, List.range_eq_range']
  exact pauses_spaced call _ 0 (attemptBudget cfg - 1)

end loop

/-! ## The schedule -/

/-- What the schedule says about retry `i` (from 0), in milliseconds. -/
def scheduled (schedule : List ℤ) (i : ℕ) : ℤ := schedule.getD (min i (schedule.length - 1)) 0

/-- The pauses, in seconds, are those of the schedule. -/
def Follows (schedule : List ℤ) (ps : List ℚ) : Prop :=
  ∀ (i : ℕ) (q : ℚ), ps[i]? = some q → q * 1000 = scheduled schedule i

/-- Without jitter the delays are those of the schedule. -/
theorem delayMs_scheduled {cfg : RetryConfig} (hjitter : cfg.jitterRatio = 0) (draw : ℚ) (i : ℕ) :
    delayMs cfg draw i = scheduled cfg.backoffScheduleMs i := by
  unfold delayMs scheduled
  split
  · simp [*]
  · simp [*]

/-- A non-negative schedule has non-negative entries. -/
theorem scheduled_nonneg {schedule : List ℤ} (h : ∀ ms ∈ schedule, 0 ≤ ms) (i : ℕ) :
    0 ≤ scheduled schedule i := by
  have hdelay := @delayMs_nonneg ⟨schedule, 1, 0⟩ h rfl 0 i
  rw [delayMs_scheduled rfl] at hdelay
  exact_mod_cast hdelay

/-- **One plain call follows the schedule.** -/
theorem follows_sleepCall {out : ℕ → Except Exc α}
    {fn : ℕ → List (Beat μ) → Except Exc α × List (Beat μ)} {call : ℕ → μ}
    (hfn : ∀ k beats, fn k beats = (out k, beats ++ [.call (call k)])) {cfg : RetryConfig}
    (hsched : ∀ ms ∈ cfg.backoffScheduleMs, 0 ≤ ms) (hjitter : cfg.jitterRatio = 0)
    {retryOn giveUpOn : List ExcType} (draw : ℕ → ℚ) (hout : Listed out retryOn giveUpOn)
    (hfail : ∀ i, stops giveUpOn (out i) = false) :
    Follows cfg.backoffScheduleMs
      (pauses
        (sleepCall fn (fun q beats => beats ++ [.slept q]) cfg retryOn giveUpOn draw []).2) := by
  intro i q hq
  rw [pauses_sleepCall hfn cfg draw hout hfail] at hq
  obtain ⟨k, hk, rfl⟩ : ∃ k, (List.range (attemptBudget cfg - 1))[i]? = some k ∧
      max 0 (delayMs cfg (draw k) k / 1000) = q := by
    simpa using hq
  obtain ⟨-, rfl⟩ : _ ∧ i = k := by
    simpa [List.getElem?_range] using List.getElem?_eq_some_iff.mp hk
  have hpos : (0 : ℚ) ≤ scheduled cfg.backoffScheduleMs i := by
    exact_mod_cast scheduled_nonneg hsched i
  rw [delayMs_scheduled hjitter, max_eq_right (by positivity), div_mul_cancel₀ _ (by norm_num)]

/-- Pauses that start with nothing and then follow the schedule follow it iff it says nothing. -/
theorem follows_shifted_iff (schedule : List ℤ) (n : ℕ) :
    Follows schedule
        (0 :: (List.range' 0 n).map fun k => max 0 ((scheduled schedule k : ℚ) / 1000)) ↔
      ∀ i ≤ n, scheduled schedule i = 0 := by
  have hget : ∀ i < n, (0 :: (List.range' 0 n).map fun k =>
      max 0 ((scheduled schedule k : ℚ) / 1000))[i + 1]? =
        some (max 0 ((scheduled schedule i : ℚ) / 1000)) := by
    intro i hi
    simp [hi]
  constructor
  · intro h i hi
    induction i with
    | zero =>
        have hzero := h 0 0 rfl
        exact_mod_cast (zero_mul _).symm.trans hzero |>.symm
    | succ i ih =>
        -- the pause before this retry is what the schedule says about the one before
        have hpause := h (i + 1) _ (hget i hi)
        rw [ih (Nat.le_of_succ_le hi)] at hpause
        simpa using hpause.symm
  · intro h i q hq
    cases i with
    | zero =>
        obtain rfl : 0 = q := by simpa using hq
        simp [h 0 (Nat.zero_le n)]
    | succ i =>
        have hi : i < n := by
          by_contra hge
          rw [List.getElem?_eq_none (by simpa using not_lt.mp hge)] at hq
          cases hq
        rw [hget i hi, h i hi.le] at hq
        obtain rfl : 0 = q := by simpa using hq
        simp [h (i + 1) hi]

/-- The entries the first retries use are the first entries. -/
theorem scheduled_eq_zero_iff {schedule : List ℤ} (h : schedule ≠ []) (n : ℕ) :
    (∀ i < n, scheduled schedule i = 0) ↔ ∀ ms ∈ schedule.take n, ms = 0 := by
  have hlen : 0 < schedule.length := List.length_pos_iff.mpr h
  have hget : ∀ i, ∃ hi : min i (schedule.length - 1) < schedule.length,
      scheduled schedule i = schedule[min i (schedule.length - 1)] := by
    intro i
    have hi : min i (schedule.length - 1) < schedule.length := by omega
    exact ⟨hi, by simp [scheduled, List.getD_eq_getElem?_getD, hi]⟩
  constructor
  · intro hzero ms hms
    obtain ⟨i, hi, rfl⟩ := List.mem_take_iff_getElem.mp hms
    obtain ⟨hlt, hsched⟩ := hget i
    rw [← hzero i (by omega), hsched]
    simp only [min_eq_left (show i ≤ schedule.length - 1 by omega)]
  · intro hzero i hi
    obtain ⟨hlt, hsched⟩ := hget i
    rw [hsched]
    apply hzero
    exact List.mem_take_iff_getElem.mpr ⟨min i (schedule.length - 1), by omega, rfl⟩

end TripPipeline.Common
