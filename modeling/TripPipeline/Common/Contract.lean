import TripPipeline.Common.Retry

/-!
# The contract of `call_with_retry`

What a caller may rely on, in terms of the outcomes of `fn` alone. `callCount` is the number of
calls: the loop stops at the first success or the first exception of `give_up_on`, and otherwise
when the attempts are used up.

* `trial_calls`, `trial_last`, `trial_errors`: the trial of the loop makes that many calls, ends
  with the outcome of the last of them, and records the failures among them.
* `callWithRetry_contract`: result, calls, waits and accumulators (`Contract`), for every sequence
  of outcomes.
* `trial_escaped_iff`: when an exception outside both lists leaves the loop.
-/

namespace TripPipeline.Common

open TripPipeline.Lib

variable {σ α : Type}

/-! ## How many calls -/

/-- A success, or an exception of `give_up_on`. -/
def stops (giveUpOn : List ExcType) : Except Exc α → Bool
  | .ok _ => true
  | .error e => e.isInstance giveUpOn

/-- The number of calls with a budget of `budget` attempts. -/
def callCount (out : ℕ → Except Exc α) (giveUpOn : List ExcType) (budget : ℕ) : ℕ :=
  ((List.range budget).find? fun i => stops giveUpOn (out i)).elim budget (· + 1)

/-- The exceptions among the first `k` outcomes. -/
def failed (out : ℕ → Except Exc α) (k : ℕ) : List Exc :=
  (List.range k).filterMap fun i =>
    match out i with
    | .ok _ => none
    | .error e => some e

/-- Every failure is in one of the two lists. -/
def Listed (out : ℕ → Except Exc α) (retryOn giveUpOn : List ExcType) : Prop :=
  ∀ i e, out i = .error e → e.isInstance giveUpOn = true ∨ e.isInstance retryOn = true

/-- The outcome of the call that ended the loop. -/
def Ending.outcome : Ending α → Except Exc α
  | .success a => .ok a
  | .gaveUp e | .spent e | .escaped e => .error e

section trials

variable {out : ℕ → Except Exc α} {retryOn giveUpOn : List ExcType}

/-- A trial calls until the first outcome that ends it, or until its attempts are used up. -/
theorem trial_calls_from (hout : Listed out retryOn giveUpOn) (left attempt : ℕ) :
    (trial out retryOn giveUpOn left attempt).calls =
      ((List.range' attempt (left + 1)).find? fun i => stops giveUpOn (out i)).elim (left + 1)
        (fun i => i - attempt + 1) := by
  apply trial_rec (P := fun left attempt t => t.calls =
    ((List.range' attempt (left + 1)).find? fun i => stops giveUpOn (out i)).elim (left + 1)
      (fun i => i - attempt + 1))
  case success =>
    intro left attempt a h
    simp [List.range'_succ, Trial.calls, stops, h]
  case gaveUp =>
    intro left attempt e h hgive
    simp [List.range'_succ, Trial.calls, stops, h, hgive]
  case escaped =>
    intro left attempt e h hgive hretry
    rcases hout attempt e h with hlisted | hlisted
    · exact absurd (hgive.symm.trans hlisted) Bool.false_ne_true
    · exact absurd (hretry.symm.trans hlisted) Bool.false_ne_true
  case spent =>
    intro attempt e h hgive _
    simp [Trial.calls, stops, h, hgive]
  case cons =>
    intro left attempt e h hgive _ ih
    have hstop : stops giveUpOn (out attempt) = false := by
      rw [h]
      exact hgive
    rw [Trial.calls_cons, ih, List.range'_succ (n := left + 1), List.find?_cons, hstop]
    dsimp only
    cases hfind : (List.range' (attempt + 1) (left + 1)).find?
        fun i => stops giveUpOn (out i) with
    | none => rfl
    | some i =>
        have hmem := List.mem_range'_1.mp (List.mem_of_find?_eq_some hfind)
        show i - (attempt + 1) + 1 + 1 = i - attempt + 1
        omega

/-- **The trial of the loop makes the calls of the contract.** -/
theorem trial_calls (hout : Listed out retryOn giveUpOn) {budget : ℕ} (h : 0 < budget) :
    (trial out retryOn giveUpOn (budget - 1) 0).calls = callCount out giveUpOn budget := by
  rw [trial_calls_from hout, Nat.sub_add_cancel h, callCount, List.range_eq_range']
  simp

/-- Without a success or an exception of `give_up_on` the budget is used up. -/
theorem callCount_of_not_stops (h : ∀ i, stops giveUpOn (out i) = false) (budget : ℕ) :
    callCount out giveUpOn budget = budget := by
  rw [callCount, List.find?_eq_none.mpr]
  · rfl
  · intro i _
    simp [h i]

/-- The budget is never exceeded. -/
theorem trial_calls_le (out : ℕ → Except Exc α) (retryOn giveUpOn : List ExcType)
    (left attempt : ℕ) : (trial out retryOn giveUpOn left attempt).calls ≤ left + 1 := by
  apply trial_rec (P := fun left _ t => t.calls ≤ left + 1)
  case cons =>
    intro left attempt e _ _ _ ih
    rw [Trial.calls_cons]
    exact Nat.succ_le_succ ih
  all_goals
    intros
    simp [Trial.calls]

/-- It ends with the outcome of its last call. -/
theorem trial_last (out : ℕ → Except Exc α) (retryOn giveUpOn : List ExcType)
    (left attempt : ℕ) :
    (trial out retryOn giveUpOn left attempt).ending.outcome =
      out (attempt + ((trial out retryOn giveUpOn left attempt).calls - 1)) := by
  apply trial_rec (P := fun _ attempt t => t.ending.outcome = out (attempt + (t.calls - 1)))
  case cons =>
    intro left attempt e _ _ _ ih
    have hpos := Trial.calls_pos out retryOn giveUpOn left (attempt + 1)
    rw [Trial.ending_cons, Trial.calls_cons, ih]
    congr 1
    omega
  all_goals
    intros
    simp [Trial.calls, Ending.outcome, *]

/-- A budget that is spent was spent to the last attempt. -/
theorem trial_spent {left attempt : ℕ} {e : Exc}
    (h : (trial out retryOn giveUpOn left attempt).ending = .spent e) :
    (trial out retryOn giveUpOn left attempt).calls = left + 1 := by
  revert h
  apply trial_rec (P := fun left _ t => t.ending = .spent e → t.calls = left + 1)
  case spent =>
    intro attempt e _ _ _ _
    rfl
  case cons =>
    intro left attempt e _ _ _ ih h
    rw [Trial.calls_cons, ih h]
  all_goals
    intros
    contradiction

/-- A trial does not let a listed exception through. -/
theorem trial_not_escaped (hout : Listed out retryOn giveUpOn) (left attempt : ℕ) (e : Exc) :
    (trial out retryOn giveUpOn left attempt).ending ≠ .escaped e := by
  intro he
  obtain ⟨hgive, hretry, k, hk⟩ := trial_escaped he
  rcases hout k e hk with h | h
  · rw [hgive] at h
    cases h
  · rw [hretry] at h
    cases h

/-- Attempt `k` raises an exception in neither list, after failures that are retried. -/
structure EscapesAt (out : ℕ → Except Exc α) (retryOn giveUpOn : List ExcType) (k : ℕ) : Prop where
  unlisted : ∃ e, out k = .error e ∧ e.isInstance giveUpOn = false ∧ e.isInstance retryOn = false
  retried : ∀ j < k, ∃ e, out j = .error e ∧ e.isInstance giveUpOn = false ∧
    e.isInstance retryOn = true

/-- Nothing escapes after an attempt that stops the loop. -/
theorem not_escapesAt_of_stops (h : stops giveUpOn (out 0) = true) (k : ℕ) :
    ¬EscapesAt out retryOn giveUpOn k := by
  rintro ⟨⟨e, he, hgive, -⟩, hretried⟩
  rcases k with _ | k
  · rw [he] at h
    exact Bool.false_ne_true (hgive.symm.trans h)
  · obtain ⟨e', he', hgive', -⟩ := hretried 0 (Nat.succ_pos k)
    rw [he'] at h
    exact Bool.false_ne_true (hgive'.symm.trans h)

/-- A failure in front that is retried. -/
theorem exists_escapesAt_succ {e : Exc} (h : out 0 = .error e)
    (hgive : e.isInstance giveUpOn = false) (hretry : e.isInstance retryOn = true) (left : ℕ) :
    (∃ k ≤ left + 1, EscapesAt out retryOn giveUpOn k) ↔
      ∃ k ≤ left, EscapesAt (fun i => out (i + 1)) retryOn giveUpOn k := by
  constructor
  · rintro ⟨k, hk, ⟨e', he', hgive', hretry'⟩, hretried⟩
    rcases k with _ | k
    · rw [h] at he'
      rw [← Except.error.inj he', hretry] at hretry'
      cases hretry'
    · exact ⟨k, Nat.le_of_succ_le_succ hk, ⟨e', he', hgive', hretry'⟩,
        fun j hj => hretried (j + 1) (Nat.succ_lt_succ hj)⟩
  · rintro ⟨k, hk, hunlisted, hretried⟩
    refine ⟨k + 1, Nat.succ_le_succ hk, hunlisted, fun j hj => ?_⟩
    rcases j with _ | j
    · exact ⟨e, h, hgive, hretry⟩
    · exact hretried j (Nat.lt_of_succ_lt_succ hj)

/-- **When an exception leaves the loop.** -/
theorem trial_escaped_iff (left attempt : ℕ) :
    (∃ e, (trial out retryOn giveUpOn left attempt).ending = .escaped e) ↔
      ∃ k ≤ left, EscapesAt (fun i => out (attempt + i)) retryOn giveUpOn k := by
  apply trial_rec (P := fun left attempt t => (∃ e, t.ending = .escaped e) ↔
    ∃ k ≤ left, EscapesAt (fun i => out (attempt + i)) retryOn giveUpOn k)
  case success =>
    intro left attempt a hout
    refine iff_of_false (by simp) ?_
    rintro ⟨k, -, hk⟩
    exact not_escapesAt_of_stops (by simp [hout, stops]) k hk
  case gaveUp =>
    intro left attempt e hout hgive
    refine iff_of_false (by simp) ?_
    rintro ⟨k, -, hk⟩
    exact not_escapesAt_of_stops (by simp [hout, stops, hgive]) k hk
  case escaped =>
    intro left attempt e hout hgive hretry
    exact iff_of_true ⟨e, rfl⟩ ⟨0, Nat.zero_le _, ⟨e, hout, hgive, hretry⟩,
      fun j hj => absurd hj (Nat.not_lt_zero j)⟩
  case spent =>
    intro attempt e hout _ hretry
    refine iff_of_false (by simp) ?_
    rintro ⟨k, hk, ⟨e', he', -, hretry'⟩, -⟩
    rw [Nat.le_zero.mp hk, add_zero, hout] at he'
    rw [← Except.error.inj he', hretry] at hretry'
    cases hretry'
  case cons =>
    intro left attempt e hout hgive hretry ih
    rw [Trial.ending_cons, ih, @exists_escapesAt_succ α (fun i => out (attempt + i)) retryOn
      giveUpOn e hout hgive hretry]
    simp only [Nat.add_assoc, Nat.add_comm 1]

/-- The failures it records are those among its calls. -/
theorem trial_errors (hout : Listed out retryOn giveUpOn) (left : ℕ) :
    (trial out retryOn giveUpOn left 0).errors =
      failed out (trial out retryOn giveUpOn left 0).calls := by
  have houtcomes := trial_outcomes out retryOn giveUpOn left 0
  have hfailed : failed out (trial out retryOn giveUpOn left 0).calls =
      ((List.range' 0 (trial out retryOn giveUpOn left 0).calls).map out).filterMap fun o =>
        match o with
        | .ok _ => none
        | .error e => some e := by
    rw [failed, List.range_eq_range', List.filterMap_map]
    rfl
  rw [hfailed, houtcomes]
  cases h : (trial out retryOn giveUpOn left 0).ending with
  | escaped e => exact absurd h (trial_not_escaped hout left 0 e)
  | success a => simp [Ending.last, List.filterMap_map]
  | gaveUp e => simp [Ending.last, List.filterMap_map]
  | spent e => simp [Ending.last, List.filterMap_map]

end trials

/-! ## The waits -/

/-- Without jitter no delay of a non-negative schedule is negative. -/
theorem delayMs_nonneg {cfg : RetryConfig} (hsched : ∀ ms ∈ cfg.backoffScheduleMs, 0 ≤ ms)
    (hjitter : cfg.jitterRatio = 0) (draw : ℚ) (i : ℕ) : 0 ≤ delayMs cfg draw i := by
  unfold delayMs
  split
  · exact le_refl 0
  · rename_i s rest hcfg
    rw [hcfg] at hsched
    rw [if_pos hjitter.le]
    have hmem : (s :: rest).getD (min i rest.length) 0 ∈ s :: rest := by
      rw [List.getD_eq_getElem?_getD, List.getElem?_eq_getElem (by simp), Option.getD_some]
      exact List.getElem_mem _
    exact_mod_cast hsched _ hmem

/-- Leaving out the waits of length zero does not change the sum. -/
theorem sum_filter_pos {l : List ℚ} (h : ∀ x ∈ l, 0 ≤ x) : (l.filter (0 < ·)).sum = l.sum := by
  induction l with
  | nil => rfl
  | cons x l ih =>
      have hl := ih fun y hy => h y (List.mem_cons_of_mem _ hy)
      by_cases hx : 0 < x
      · rw [List.filter_cons_of_pos (by simpa using hx), List.sum_cons, List.sum_cons, hl]
      · have hzero : x = 0 := le_antisymm (not_lt.mp hx) (h x List.mem_cons_self)
        rw [List.filter_cons_of_neg (by simpa using hx), List.sum_cons, hl, hzero, zero_add]

/-! ## The contract -/

/-- What `call_with_retry` promises when `fn` has the outcomes `out` and `k` calls are made. -/
structure Contract (cfg : RetryConfig) (draw : ℕ → ℚ) (out : ℕ → Except Exc α) (upd : ℕ → σ → σ)
    (stats : RetryStats) (s : σ) (k : ℕ) (run : CallRun σ α) : Prop where
  /-- `fn` is called `k` times. -/
  calls : run.state = (List.range k).foldl (fun s i => upd i s) s
  /-- The value of the last call, or `RetriesExhausted(k, last_error)`. -/
  result : run.result =
    match out (k - 1) with
    | .ok a => .returned a
    | .error e => .exhausted k e
  /-- The waits in seconds: none after the last call. -/
  sleeps : run.sleeps =
    (((List.range (k - 1)).map fun i => delayMs cfg (draw i) i).filter (0 < ·)).map (· / 1000)
  attempts : run.stats.attempts = stats.attempts + k
  successes : run.stats.successes = stats.successes + if (out (k - 1)).isOk then 1 else 0
  failuresExhausted :
    run.stats.failuresExhausted = stats.failuresExhausted + if (out (k - 1)).isOk then 0 else 1
  retriesBeforeSuccess : run.stats.retriesBeforeSuccess =
    stats.retriesBeforeSuccess + if (out (k - 1)).isOk then k - 1 else 0
  failureReasons : run.stats.failureReasons.total =
    stats.failureReasons.total + (failed out k).length
  totalBackoffMs :
    run.stats.totalBackoffMs = stats.totalBackoffMs + (run.sleeps.map (· * 1000)).sum

/-- Counting the errors by name counts every one of them. -/
theorem total_foldl_name (errors : List Exc) (c : Counter String) :
    (errors.foldl (fun c e => c.add e.name 1) c).total = c.total + errors.length := by
  induction errors generalizing c with
  | nil => rfl
  | cons e errors ih =>
      rw [List.foldl_cons, ih, Counter.total_eq_card, Counter.toMultiset_add, Multiset.card_add,
        ← Counter.total_eq_card, Multiset.card_replicate, List.length_cons]
      omega

/-- At least one attempt is made. -/
theorem attemptBudget_pos (cfg : RetryConfig) : 0 < attemptBudget cfg := by
  unfold attemptBudget
  omega

/-- **`call_with_retry` obeys its contract on every sequence of outcomes.** -/
theorem callWithRetry_contract {fn : ℕ → σ → Except Exc α × σ} {out : ℕ → Except Exc α}
    {upd : ℕ → σ → σ} (hfn : ∀ i s, fn i s = (out i, upd i s)) {cfg : RetryConfig}
    (hsched : ∀ ms ∈ cfg.backoffScheduleMs, 0 ≤ ms) (hjitter : cfg.jitterRatio = 0)
    {retryOn giveUpOn : List ExcType} (hout : Listed out retryOn giveUpOn) (draw : ℕ → ℚ)
    (stats : RetryStats) (s : σ) :
    Contract cfg draw out upd stats s (callCount out giveUpOn (attemptBudget cfg))
      (callWithRetry fn cfg retryOn giveUpOn draw stats s) := by
  have hcalls := trial_calls hout (attemptBudget_pos cfg)
  have hlast := trial_last out retryOn giveUpOn (attemptBudget cfg - 1) 0
  have hspent : ∀ e, (trial out retryOn giveUpOn (attemptBudget cfg - 1) 0).ending = .spent e →
      (trial out retryOn giveUpOn (attemptBudget cfg - 1) 0).calls = attemptBudget cfg := by
    intro e he
    rw [trial_spent he, Nat.sub_add_cancel (attemptBudget_pos cfg)]
  have hescaped := trial_not_escaped hout (attemptBudget cfg - 1) 0
  have herrors := trial_errors hout (attemptBudget cfg - 1)
  rw [callWithRetry, callLoop_eq hfn]
  rw [hcalls] at hspent herrors hlast
  rw [zero_add] at hlast
  generalize callCount out giveUpOn (attemptBudget cfg) = k at *
  generalize trial out retryOn giveUpOn (attemptBudget cfg - 1) 0 = t at *
  subst hcalls
  have hdelays : delays cfg draw 0 t.calls =
      (List.range (t.calls - 1)).map fun i => delayMs cfg (draw i) i := by
    rw [delays, List.range_eq_range']
  constructor
  · rw [List.range_eq_range']
  · dsimp only
    rw [← hlast, Trial.result]
    cases h : t.ending with
    | success a => rfl
    | gaveUp e => simp [Ending.outcome, Trial.calls, h]
    | spent e => simp [Ending.outcome, hspent e h]
    | escaped e => exact absurd h (hescaped e)
  · dsimp only
    rw [hdelays]
  · rfl
  · rw [← hlast]
    cases h : t.ending <;>
      simp [RetryStats.charge, Trial.wins, h, Ending.outcome, Except.isOk, Except.toBool]
  · rw [← hlast]
    cases h : t.ending with
    | escaped e => exact absurd h (hescaped e)
    | _ => simp [RetryStats.charge, Trial.losses, h, Ending.outcome, Except.isOk, Except.toBool]
  · rw [← hlast]
    cases h : t.ending <;>
      simp [RetryStats.charge, Trial.wins, Trial.calls, h, Ending.outcome, Except.isOk,
        Except.toBool]
  · rw [← herrors]
    exact total_foldl_name t.errors stats.failureReasons
  · show stats.totalBackoffMs + (delays cfg draw 0 t.calls).sum = _
    have hsum : ((((delays cfg draw 0 t.calls).filter (0 < ·)).map (· / 1000)).map (· * 1000)) =
        (delays cfg draw 0 t.calls).filter (0 < ·) := by
      rw [List.map_map]
      refine (List.map_congr_left fun x _ => ?_).trans (List.map_id _)
      show x / 1000 * 1000 = x
      exact div_mul_cancel₀ x (by norm_num)
    dsimp only
    rw [hsum, sum_filter_pos]
    intro x hx
    rw [hdelays] at hx
    obtain ⟨i, -, rfl⟩ := List.mem_map.mp hx
    exact delayMs_nonneg hsched hjitter _ _

/-! ## A statement that times out twice -/

/-- Two timeouts, then a success. -/
def thirdTime (i : ℕ) : Except Exc Unit :=
  if i < 2 then .error ⟨"WriteTimeout", "timed out", [.writeTimeout]⟩ else .ok ()

/-- The general result at an operation that succeeds on its third call. -/
theorem callWithRetry_contract_thirdTime :
    Contract ⟨[1000, 2000, 4000], 4, 0⟩ (fun _ => 0) thirdTime (fun i log => log ++ [i])
      RetryStats.init [] (callCount thirdTime [.invalidRequest] 4)
      (callWithRetry (fun i log => (thirdTime i, log ++ [i])) ⟨[1000, 2000, 4000], 4, 0⟩
        [.writeTimeout] [.invalidRequest] (fun _ => 0) RetryStats.init ([] : List ℕ)) := by
  refine callWithRetry_contract (fun _ _ => rfl) (by decide) rfl ?_ _ _ _
  intro i e he
  unfold thirdTime at he
  split_ifs at he
  rw [← Except.error.inj he]
  exact Or.inr rfl

/-- It is called three times. -/
example : callCount thirdTime [.invalidRequest] 4 = 3 := by decide

end TripPipeline.Common
