import Mathlib.Algebra.BigOperators.Group.List.Basic
import TripPipeline.Common.Py
import TripPipeline.Lib.Binary64
import TripPipeline.Lib.Counter

/-!
# Bounded retry with a backoff schedule

`callWithRetry` is `common/retry.py`'s `call_with_retry`: a loop of at most `max(1, max_attempts)`
calls with three exits (a value, an exception of `give_up_on`, the last attempt), that charges the
accumulators of a `RetryStats` as it goes. The called function may change a state `σ`, so that one
model serves both callers: the sink, whose calls consult an outcome assignment, and the producer,
whose calls act on the client's queue.

What a call of the loop does depends only on the sequence of outcomes. `trial` reads that sequence
off the outcomes alone (the exceptions recorded and the way the loop ends) and `callLoop_eq` says
that result, accumulators, state and sleeps of the loop are those of the trial. Later modules reason
about trials, by the induction rule `trial_rec`, and never unfold the loop.

`batched` cuts the rows of a partition into chunks; `flatten_batched` is the fact the sink needs,
that for every chunk size (zero and negative ones included) nothing is lost, doubled or moved.
-/

namespace TripPipeline.Common

open TripPipeline.Lib

/-! ## Configuration and accumulators -/

/-- The retry settings. An empty schedule disables the waiting.
Source: `common/config.py` `RetryConfig` -/
structure RetryConfig where
  backoffScheduleMs : List ℤ
  maxAttempts : ℤ
  jitterRatio : ℚ

/-- The accumulators of the retry layer.
Source: `common/retry.py` `RetryStats` -/
structure RetryStats where
  attempts : ℕ
  successes : ℕ
  failuresExhausted : ℕ
  retriesBeforeSuccess : ℕ
  totalBackoffMs : ℚ
  failureReasons : Counter String

namespace RetryStats

/-- `RetryStats()`. -/
def init : RetryStats := ⟨0, 0, 0, 0, 0, Counter.empty⟩

/-- `stats.record_reason(exc)`: one more failure under the exception's class name. -/
def recordReason (s : RetryStats) (e : Exc) : RetryStats :=
  { s with failureReasons := s.failureReasons.add e.name 1 }

/-- `stats.merge(other)`. -/
def merge (s other : RetryStats) : RetryStats where
  attempts := s.attempts + other.attempts
  successes := s.successes + other.successes
  failuresExhausted := s.failuresExhausted + other.failuresExhausted
  retriesBeforeSuccess := s.retriesBeforeSuccess + other.retriesBeforeSuccess
  totalBackoffMs := s.totalBackoffMs + other.totalBackoffMs
  failureReasons := s.failureReasons.merge other.failureReasons

/-- Mean number of retries taken by calls that succeeded.
Source: `common/retry.py` `RetryStats.avg_retries_to_success` -/
def avgRetriesToSuccess (s : RetryStats) : ℚ :=
  if s.successes = 0 then 0 else s.retriesBeforeSuccess / s.successes

end RetryStats

/-- `stats.as_dict()`. -/
structure RetryStatsDict where
  attempts : ℕ
  successes : ℕ
  failuresExhausted : ℕ
  retriesBeforeSuccess : ℕ
  avgRetriesToSuccess : ℚ
  totalBackoffMs : ℚ
  failureReasons : Counter String

/-- `round(x, digits)` of the double that the exact value `x` is rounded to. -/
def pyRound (x : ℚ) (digits : ℕ) : ℚ := roundPlaces digits (fl x)

/-- Source: `common/retry.py` `RetryStats.as_dict` -/
def RetryStats.asDict (s : RetryStats) : RetryStatsDict where
  attempts := s.attempts
  successes := s.successes
  failuresExhausted := s.failuresExhausted
  retriesBeforeSuccess := s.retriesBeforeSuccess
  avgRetriesToSuccess := pyRound s.avgRetriesToSuccess 4
  totalBackoffMs := pyRound s.totalBackoffMs 1
  failureReasons := s.failureReasons.sortKeys

/-! ## The backoff policy -/

/-- `BackoffPolicy(cfg).delay_ms(retry_index)`: the schedule, clamped past its end, with uniform
jitter around the base. `draw` is the value `random.random()` returns for this delay. -/
def delayMs (cfg : RetryConfig) (draw : ℚ) (retryIndex : ℕ) : ℚ :=
  match cfg.backoffScheduleMs with
  | [] => 0
  | s :: rest =>
      let base : ℚ := ((s :: rest).getD (min retryIndex rest.length) 0 : ℤ)
      if cfg.jitterRatio ≤ 0 then base
      else
        let spread := base * cfg.jitterRatio
        max 0 ((base - spread) + ((base + spread) - (base - spread)) * draw)

/-! ## The retry loop -/

/-- How `call_with_retry` ends. -/
inductive CallResult (α : Type) where
  /-- The value of the call that succeeded. -/
  | returned (value : α)
  /-- `RetriesExhausted(attempts, last_error)`. -/
  | exhausted (attempts : ℕ) (lastError : Exc)
  /-- An exception neither in `retry_on` nor in `give_up_on`, which leaves the loop. -/
  | raised (e : Exc)

/-- What a run of the loop leaves behind. -/
structure CallRun (σ α : Type) where
  result : CallResult α
  stats : RetryStats
  state : σ
  /-- The arguments of `sleep`, in order, in seconds. -/
  sleeps : List ℚ

section loop

variable {σ α : Type}

/-- The loop of `call_with_retry` from attempt index `attempt` on, with `left` further attempts
after this one. `fn k` is the `k`-th call (from 0).
Source: `common/retry.py` `call_with_retry` -/
def callLoop (fn : ℕ → σ → Except Exc α × σ) (cfg : RetryConfig) (retryOn giveUpOn : List ExcType)
    (draw : ℕ → ℚ) (maxAttempts : ℕ) : (left attempt : ℕ) → RetryStats → σ → CallRun σ α
  | left, attempt, stats, s =>
      let stats := { stats with attempts := stats.attempts + 1 }
      match fn attempt s with
      | (.ok a, s) =>
          ⟨.returned a, { stats with
            successes := stats.successes + 1
            retriesBeforeSuccess := stats.retriesBeforeSuccess + attempt }, s, []⟩
      | (.error e, s) =>
          if e.isInstance giveUpOn then
            let stats := stats.recordReason e
            ⟨.exhausted (attempt + 1) e,
              { stats with failuresExhausted := stats.failuresExhausted + 1 }, s, []⟩
          else if e.isInstance retryOn then
            let stats := stats.recordReason e
            match left with
            | 0 => ⟨.exhausted maxAttempts e,
                { stats with failuresExhausted := stats.failuresExhausted + 1 }, s, []⟩
            | left + 1 =>
                let waitMs := delayMs cfg (draw attempt) attempt
                let run := callLoop fn cfg retryOn giveUpOn draw maxAttempts left (attempt + 1)
                  { stats with totalBackoffMs := stats.totalBackoffMs + waitMs } s
                { run with sleeps := (if 0 < waitMs then [waitMs / 1000] else []) ++ run.sleeps }
          else ⟨.raised e, stats, s, []⟩

/-- `max(1, policy.cfg.max_attempts)`. -/
def attemptBudget (cfg : RetryConfig) : ℕ := (max 1 cfg.maxAttempts).toNat

/-- `call_with_retry(fn, policy=..., stats=..., retry_on=..., give_up_on=...)`. -/
def callWithRetry (fn : ℕ → σ → Except Exc α × σ) (cfg : RetryConfig)
    (retryOn giveUpOn : List ExcType) (draw : ℕ → ℚ) (stats : RetryStats) (s : σ) : CallRun σ α :=
  callLoop fn cfg retryOn giveUpOn draw (attemptBudget cfg) (attemptBudget cfg - 1) 0 stats s

/-! ## What the loop does, read off the outcomes -/

/-- The way a loop of attempts ends. -/
inductive Ending (α : Type) where
  | success (value : α)
  | gaveUp (e : Exc)
  | spent (e : Exc)
  | escaped (e : Exc)

/-- A sequence of attempts: the failures that are recorded, and the ending. -/
structure Trial (α : Type) where
  errors : List Exc
  ending : Ending α

/-- One more recorded failure in front. -/
def Trial.cons (e : Exc) (t : Trial α) : Trial α := ⟨e :: t.errors, t.ending⟩

/-- The attempts a loop makes on a given sequence of outcomes. -/
def trial (out : ℕ → Except Exc α) (retryOn giveUpOn : List ExcType) :
    (left attempt : ℕ) → Trial α
  | left, attempt =>
      match out attempt with
      | .ok a => ⟨[], .success a⟩
      | .error e =>
          if e.isInstance giveUpOn then ⟨[e], .gaveUp e⟩
          else if e.isInstance retryOn then
            match left with
            | 0 => ⟨[e], .spent e⟩
            | left + 1 => (trial out retryOn giveUpOn left (attempt + 1)).cons e
          else ⟨[], .escaped e⟩

namespace Trial

/-- 1 for a success. -/
def wins (t : Trial α) : ℕ :=
  match t.ending with
  | .success _ => 1
  | _ => 0

/-- 1 when the loop raises `RetriesExhausted`. -/
def losses (t : Trial α) : ℕ :=
  match t.ending with
  | .gaveUp _ | .spent _ => 1
  | _ => 0

/-- The number of calls: every failure recorded, and the call that ended the loop otherwise. -/
def calls (t : Trial α) : ℕ :=
  match t.ending with
  | .success _ | .escaped _ => t.errors.length + 1
  | .gaveUp _ | .spent _ => t.errors.length

/-- The result the loop hands to its caller, when it started at attempt index `attempt`. -/
def result (t : Trial α) (maxAttempts attempt : ℕ) : CallResult α :=
  match t.ending with
  | .success a => .returned a
  | .gaveUp e => .exhausted (attempt + t.errors.length) e
  | .spent e => .exhausted maxAttempts e
  | .escaped e => .raised e

/-- A failure in front changes nothing about the success. -/
@[simp] theorem wins_cons (e : Exc) (t : Trial α) : (t.cons e).wins = t.wins := rfl

/-- A failure in front changes nothing about the loss. -/
@[simp] theorem losses_cons (e : Exc) (t : Trial α) : (t.cons e).losses = t.losses := rfl

/-- A failure in front is one more error. -/
@[simp] theorem errors_cons (e : Exc) (t : Trial α) : (t.cons e).errors = e :: t.errors := rfl

/-- A failure in front changes nothing about the ending. -/
@[simp] theorem ending_cons (e : Exc) (t : Trial α) : (t.cons e).ending = t.ending := rfl

/-- A failure in front is one more call. -/
@[simp] theorem calls_cons (e : Exc) (t : Trial α) : (t.cons e).calls = t.calls + 1 := by
  obtain ⟨errors, ending⟩ := t
  cases ending <;> rfl

/-- A failure in front is one more attempt behind the result. -/
theorem result_cons (e : Exc) (t : Trial α) (maxAttempts attempt : ℕ) :
    (t.cons e).result maxAttempts attempt = t.result maxAttempts (attempt + 1) := by
  obtain ⟨errors, ending⟩ := t
  cases ending with
  | gaveUp e' => simp [result, cons, Nat.add_left_comm, Nat.add_comm]
  | _ => rfl

end Trial

/-- The outcome of the call that ended the loop without being recorded. -/
def Ending.last : Ending α → List (Except Exc α)
  | .success a => [.ok a]
  | .escaped e => [.error e]
  | .gaveUp _ | .spent _ => []

/-- **Induction on a trial**, with a case for each way an attempt goes on: a success, an exception
of `giveUpOn`, one in neither list, the last attempt, and an attempt that is followed by another. -/
theorem trial_rec {out : ℕ → Except Exc α} {retryOn giveUpOn : List ExcType}
    {P : (left attempt : ℕ) → Trial α → Prop}
    (success : ∀ left attempt a, out attempt = .ok a → P left attempt ⟨[], .success a⟩)
    (gaveUp : ∀ left attempt e, out attempt = .error e → e.isInstance giveUpOn = true →
      P left attempt ⟨[e], .gaveUp e⟩)
    (escaped : ∀ left attempt e, out attempt = .error e → e.isInstance giveUpOn = false →
      e.isInstance retryOn = false → P left attempt ⟨[], .escaped e⟩)
    (spent : ∀ attempt e, out attempt = .error e → e.isInstance giveUpOn = false →
      e.isInstance retryOn = true → P 0 attempt ⟨[e], .spent e⟩)
    (cons : ∀ left attempt e, out attempt = .error e → e.isInstance giveUpOn = false →
      e.isInstance retryOn = true →
      P left (attempt + 1) (trial out retryOn giveUpOn left (attempt + 1)) →
      P (left + 1) attempt ((trial out retryOn giveUpOn left (attempt + 1)).cons e))
    (left attempt : ℕ) : P left attempt (trial out retryOn giveUpOn left attempt) := by
  induction left generalizing attempt with
  | zero =>
      rw [trial]
      cases hout : out attempt with
      | ok a => exact success 0 attempt a hout
      | error e =>
          dsimp only
          split_ifs with hgive hretry
          · exact gaveUp 0 attempt e hout hgive
          · exact spent attempt e hout (Bool.eq_false_of_not_eq_true hgive) hretry
          · exact escaped 0 attempt e hout (Bool.eq_false_of_not_eq_true hgive)
              (Bool.eq_false_of_not_eq_true hretry)
  | succ left ih =>
      rw [trial]
      cases hout : out attempt with
      | ok a => exact success (left + 1) attempt a hout
      | error e =>
          dsimp only
          split_ifs with hgive hretry
          · exact gaveUp (left + 1) attempt e hout hgive
          · exact cons left attempt e hout (Bool.eq_false_of_not_eq_true hgive) hretry
              (ih (attempt + 1))
          · exact escaped (left + 1) attempt e hout (Bool.eq_false_of_not_eq_true hgive)
              (Bool.eq_false_of_not_eq_true hretry)

/-- A trial spells out the outcomes of its calls: the recorded failures, then the last one. -/
theorem trial_outcomes (out : ℕ → Except Exc α) (retryOn giveUpOn : List ExcType)
    (left attempt : ℕ) :
    (List.range' attempt (trial out retryOn giveUpOn left attempt).calls).map out =
      (trial out retryOn giveUpOn left attempt).errors.map .error ++
        (trial out retryOn giveUpOn left attempt).ending.last := by
  apply trial_rec (P := fun _ attempt t =>
    (List.range' attempt t.calls).map out = t.errors.map Except.error ++ t.ending.last)
  case success =>
    intro left attempt a hout
    simp [Trial.calls, Ending.last, hout]
  case gaveUp =>
    intro left attempt e hout _
    simp [Trial.calls, Ending.last, hout]
  case escaped =>
    intro left attempt e hout _ _
    simp [Trial.calls, Ending.last, hout]
  case spent =>
    intro attempt e hout _ _
    simp [Trial.calls, Ending.last, hout]
  case cons =>
    intro left attempt e hout _ _ ih
    rw [Trial.calls_cons, Trial.errors_cons, Trial.ending_cons, List.range'_succ, List.map_cons, ih,
      hout]
    rfl

/-- The ending fits the lists: what is given up on is in `giveUpOn`, what spends the budget is in
`retryOn` only, and what escapes is in neither. -/
def Ending.Fits (out : ℕ → Except Exc α) (retryOn giveUpOn : List ExcType) : Ending α → Prop
  | .success _ => True
  | .gaveUp e => e.isInstance giveUpOn = true
  | .spent e => e.isInstance giveUpOn = false ∧ e.isInstance retryOn = true
  | .escaped e => e.isInstance giveUpOn = false ∧ e.isInstance retryOn = false ∧
      ∃ k, out k = .error e

/-- A trial ends in one of the ways its outcomes allow. -/
theorem trial_ending (out : ℕ → Except Exc α) (retryOn giveUpOn : List ExcType)
    (left attempt : ℕ) :
    (trial out retryOn giveUpOn left attempt).ending.Fits out retryOn giveUpOn := by
  apply trial_rec (P := fun _ _ t => t.ending.Fits out retryOn giveUpOn)
  case success =>
    intro left attempt a _
    exact trivial
  case gaveUp =>
    intro left attempt e _ hgive
    exact hgive
  case escaped =>
    intro left attempt e hout hgive hretry
    exact ⟨hgive, hretry, attempt, hout⟩
  case spent =>
    intro attempt e _ hgive hretry
    exact ⟨hgive, hretry⟩
  case cons =>
    intro left attempt e _ _ _ ih
    exact ih

/-- An exception leaves the loop only when it is in neither list. -/
theorem trial_escaped {out : ℕ → Except Exc α} {retryOn giveUpOn : List ExcType}
    {left attempt : ℕ} {e : Exc}
    (h : (trial out retryOn giveUpOn left attempt).ending = .escaped e) :
    e.isInstance giveUpOn = false ∧ e.isInstance retryOn = false ∧ ∃ k, out k = .error e := by
  have hfits := trial_ending out retryOn giveUpOn left attempt
  rw [h] at hfits
  exact hfits

/-- The delays of the loop: one after each call but the last. -/
def delays (cfg : RetryConfig) (draw : ℕ → ℚ) (attempt calls : ℕ) : List ℚ :=
  (List.range' attempt (calls - 1)).map fun k => delayMs cfg (draw k) k

/-- The accumulators after a trial that started at attempt index `attempt`. -/
def RetryStats.charge (stats : RetryStats) (cfg : RetryConfig) (draw : ℕ → ℚ) (attempt : ℕ)
    (t : Trial α) : RetryStats where
  attempts := stats.attempts + t.calls
  successes := stats.successes + t.wins
  failuresExhausted := stats.failuresExhausted + t.losses
  retriesBeforeSuccess := stats.retriesBeforeSuccess + t.wins * (attempt + t.errors.length)
  totalBackoffMs := stats.totalBackoffMs + (delays cfg draw attempt t.calls).sum
  failureReasons := t.errors.foldl (fun c e => c.add e.name 1) stats.failureReasons

/-- A trial calls at least once. -/
theorem Trial.calls_pos (out : ℕ → Except Exc α) (retryOn giveUpOn : List ExcType)
    (left attempt : ℕ) : 0 < (trial out retryOn giveUpOn left attempt).calls := by
  apply trial_rec (P := fun _ _ t => 0 < t.calls)
  case cons =>
    intro left attempt e _ _ _ _
    rw [Trial.calls_cons]
    exact Nat.succ_pos _
  all_goals intros; exact Nat.one_pos

/-- A further call in front adds its delay. -/
theorem delays_succ (cfg : RetryConfig) (draw : ℕ → ℚ) (attempt : ℕ) {calls : ℕ}
    (h : 0 < calls) : delays cfg draw attempt (calls + 1) =
      delayMs cfg (draw attempt) attempt :: delays cfg draw (attempt + 1) calls := by
  obtain ⟨c, rfl⟩ : ∃ c, calls = c + 1 := ⟨calls - 1, by omega⟩
  simp [delays, List.range'_succ]

/-- Charging a trial with one more failure in front is recording that failure and its delay, then
charging the rest. -/
theorem RetryStats.charge_cons (stats : RetryStats) (cfg : RetryConfig) (draw : ℕ → ℚ)
    (attempt : ℕ) (e : Exc) {t : Trial α} (h : 0 < t.calls) :
    stats.charge cfg draw attempt (t.cons e) =
      RetryStats.charge
        { stats with
          attempts := stats.attempts + 1
          failureReasons := stats.failureReasons.add e.name 1
          totalBackoffMs := stats.totalBackoffMs + delayMs cfg (draw attempt) attempt }
        cfg draw (attempt + 1) t := by
  simp only [charge, Trial.calls_cons, Trial.wins_cons, Trial.losses_cons, Trial.errors_cons,
    List.length_cons, List.foldl_cons, delays_succ cfg draw attempt h, List.sum_cons]
  congr 1
  · omega
  · rw [Nat.add_comm t.errors.length 1, Nat.add_assoc]
  · rw [add_assoc]

/-- **The loop is its trial**: when the outcome of the `k`-th call is `out k` whatever the state,
result, accumulators, state and sleeps of the loop are those of the trial of `out`. -/
theorem callLoop_eq {fn : ℕ → σ → Except Exc α × σ} {out : ℕ → Except Exc α} {upd : ℕ → σ → σ}
    (hfn : ∀ k s, fn k s = (out k, upd k s)) (cfg : RetryConfig) (retryOn giveUpOn : List ExcType)
    (draw : ℕ → ℚ) (maxAttempts left attempt : ℕ) (stats : RetryStats) (s : σ) :
    callLoop fn cfg retryOn giveUpOn draw maxAttempts left attempt stats s =
      let t := trial out retryOn giveUpOn left attempt
      ⟨t.result maxAttempts attempt, stats.charge cfg draw attempt t,
        (List.range' attempt t.calls).foldl (fun s k => upd k s) s,
        ((delays cfg draw attempt t.calls).filter (0 < ·)).map (· / 1000)⟩ := by
  dsimp only
  revert stats s
  apply trial_rec (P := fun left attempt t => ∀ (stats : RetryStats) (s : σ),
    callLoop fn cfg retryOn giveUpOn draw maxAttempts left attempt stats s =
      ⟨t.result maxAttempts attempt, stats.charge cfg draw attempt t,
        (List.range' attempt t.calls).foldl (fun s k => upd k s) s,
        ((delays cfg draw attempt t.calls).filter (0 < ·)).map (· / 1000)⟩)
  case success =>
    intro left attempt a hout stats s
    unfold callLoop
    simp [hfn, hout, Trial.result, Trial.calls, Trial.wins, Trial.losses, RetryStats.charge, delays]
  case gaveUp =>
    intro left attempt e hout hgive stats s
    unfold callLoop
    simp [hfn, hout, hgive, Trial.result, Trial.calls, Trial.wins, Trial.losses, RetryStats.charge,
      delays, RetryStats.recordReason]
  case escaped =>
    intro left attempt e hout hgive hretry stats s
    unfold callLoop
    simp [hfn, hout, hgive, hretry, Trial.result, Trial.calls, Trial.wins, Trial.losses,
      RetryStats.charge, delays]
  case spent =>
    intro attempt e hout hgive hretry stats s
    unfold callLoop
    simp [hfn, hout, hgive, hretry, Trial.result, Trial.calls, Trial.wins, Trial.losses,
      RetryStats.charge, delays, RetryStats.recordReason]
  case cons =>
    -- one more failure, one more delay, then the rest of the loop
    intro left attempt e hout hgive hretry ih stats s
    have hpos := Trial.calls_pos out retryOn giveUpOn left (attempt + 1)
    rw [callLoop]
    simp only [hfn, hout, hgive, hretry, if_true, if_false, Bool.false_eq_true, ih,
      Trial.calls_cons, Trial.result_cons, RetryStats.charge_cons _ _ _ _ _ hpos,
      delays_succ cfg draw attempt hpos, List.range'_succ, List.foldl_cons]
    by_cases hw : 0 < delayMs cfg (draw attempt) attempt <;>
      simp [hw, RetryStats.recordReason]

/-- What every call keeps of the state, the loop keeps. -/
theorem callLoop_state {P : σ → Prop} {fn : ℕ → σ → Except Exc α × σ}
    (hfn : ∀ k s, P s → P (fn k s).2) (cfg : RetryConfig) (retryOn giveUpOn : List ExcType)
    (draw : ℕ → ℚ) (maxAttempts left attempt : ℕ) (stats : RetryStats) {s : σ} (h : P s) :
    P (callLoop fn cfg retryOn giveUpOn draw maxAttempts left attempt stats s).state := by
  induction left generalizing attempt stats s with
  | zero =>
      have hcall := hfn attempt s h
      unfold callLoop
      rcases hout : fn attempt s with ⟨e | a, s'⟩ <;> rw [hout] at hcall
      · dsimp only
        split_ifs <;> exact hcall
      · exact hcall
  | succ left ih =>
      have hcall := hfn attempt s h
      unfold callLoop
      rcases hout : fn attempt s with ⟨e | a, s'⟩ <;> rw [hout] at hcall
      · by_cases hgive : e.isInstance giveUpOn = true
        · simp only [hgive, if_true]
          exact hcall
        by_cases hretry : e.isInstance retryOn = true
        · simp only [hgive, hretry, if_true, if_false, Bool.false_eq_true]
          exact ih _ _ hcall
        · simp only [hgive, hretry, if_false, Bool.false_eq_true]
          exact hcall
      · exact hcall

/-- **A loop that spends its budget**, and gives up on nothing else, has failed at every attempt:
what a failed attempt does to a part of the state, it has done once for each. -/
theorem callLoop_exhausted {β : Type} {v : σ → β} {step : β → β}
    {fn : ℕ → σ → Except Exc α × σ}
    (hfn : ∀ k s e s', fn k s = (.error e, s') → v s' = step (v s)) (cfg : RetryConfig)
    (retryOn : List ExcType) (draw : ℕ → ℚ) (maxAttempts left attempt : ℕ) (stats : RetryStats)
    {s : σ} {n : ℕ} {e : Exc}
    (h : (callLoop fn cfg retryOn [] draw maxAttempts left attempt stats s).result =
      .exhausted n e) :
    v (callLoop fn cfg retryOn [] draw maxAttempts left attempt stats s).state =
      step^[left + 1] (v s) := by
  have hnone : ∀ x : Exc, x.isInstance [] = false := by simp [Exc.isInstance]
  induction left generalizing attempt stats s with
  | zero =>
      unfold callLoop at h ⊢
      rcases hcall : fn attempt s with ⟨x | a, s'⟩
      · have hstep := hfn attempt s x s' hcall
        simp only [hcall, hnone, Bool.false_eq_true, if_false] at h ⊢
        split_ifs <;> exact hstep
      · simp [hcall] at h
  | succ left ih =>
      unfold callLoop at h ⊢
      rcases hcall : fn attempt s with ⟨x | a, s'⟩
      · have hstep := hfn attempt s x s' hcall
        by_cases hretry : x.isInstance retryOn = true
        · simp only [hcall, hnone, hretry, if_true, if_false, Bool.false_eq_true] at h ⊢
          rw [Function.iterate_succ_apply, ← hstep]
          exact ih _ _ h
        · simp [hcall, hnone, hretry] at h
      · simp [hcall] at h

end loop

/-! ## Chunks -/

section batched

variable {α : Type}

/-- The loop of `batched` with the chunk collected so far.
Source: `common/retry.py` `batched` -/
def batchedLoop (size : ℤ) : (batch : List α) → List α → List (List α)
  | batch, [] => if batch.isEmpty then [] else [batch]
  | batch, item :: items =>
      let batch := batch ++ [item]
      if size ≤ batch.length then batch :: batchedLoop size [] items
      else batchedLoop size batch items

/-- `batched(items, size)`. -/
def batched (size : ℤ) (items : List α) : List (List α) := batchedLoop size [] items

/-- The chunks hold the items, each once and in order. -/
theorem flatten_batchedLoop (size : ℤ) (batch items : List α) :
    (batchedLoop size batch items).flatten = batch ++ items := by
  induction items generalizing batch with
  | nil => cases batch <;> simp [batchedLoop]
  | cons item items ih =>
      rw [batchedLoop]
      split_ifs
      · rw [List.flatten_cons, ih]
        simp
      · rw [ih]
        simp

/-- **Chunking loses, doubles and moves nothing**, for every chunk size. -/
theorem flatten_batched (size : ℤ) (items : List α) : (batched size items).flatten = items := by
  rw [batched, flatten_batchedLoop, List.nil_append]

/-- A chunk size below one still makes progress: every item is a chunk of its own. -/
example : batched (-3) [1, 2, 3] = [[1], [2], [3]] := by decide

end batched

end TripPipeline.Common
