import Mathlib.Data.List.GetD
import TripPipeline.Bench.Sweep
import TripPipeline.Lib.Streak

/-!
# How long the lag has grown

`bench/run_scenario.py` samples the lag of the stream job. The report names the longest stretch of
samples that rises without a break, and the sweep fails a step whose stretch is over the limit.

* `longestMonotonicRun_eq`: the loop is the one pass of a streak, of the positions whose next sample
  is higher.
* `isGreatest_longestMonotonicRun`: its value is the number of rises in the longest stretch.
* `growth_le_maxObserved`: lags that are not negative grow no longer than the highest of them.
* `growth_le_iff`: the growth is within a limit iff every stretch is.
* `judge_sustained_flat`: a sustained step has no stretch over the limit of the sweep.
-/

namespace TripPipeline.Bench

open TripPipeline.Lib

/-! ## The loop -/

/-- The body of the loop, at the index `i`. -/
def growthStep (series : List ℤ) (s : StreakCount) (i : ℕ) : StreakCount :=
  if series.getD i 0 > series.getD (i - 1) 0 then ⟨max s.best (s.run + 1), s.run + 1⟩
  else ⟨s.best, 0⟩

/-- The longest strictly rising run. The indices are those of `range(1, len(series))`, so that both
samples are there (`rising_iff`).
Source: `bench/run_scenario.py` `_longest_monotonic_run` -/
def longestMonotonicRun (series : List ℤ) : ℕ :=
  ((List.range' 1 (series.length - 1)).foldl (growthStep series) ⟨0, 0⟩).best

/-- The samples from `i` to `i + m` rise at each step. -/
def Rises (series : List ℤ) (i m : ℕ) : Prop :=
  ∃ h : i + m < series.length, ∀ k, (hk : k < m) → series[i + k] < series[i + k + 1]

/-- The sample after `series[j]` is higher. -/
def rising (series : List ℤ) (j : ℕ) : Bool := series.getD j 0 < series.getD (j + 1) 0

section loop

variable {series : List ℤ} {i j m : ℕ}

/-- `rising` compares two neighbours of the series. -/
theorem rising_iff (h : j + 1 < series.length) :
    rising series j = true ↔ series[j] < series[j + 1] := by
  rw [rising, decide_eq_true_iff, List.getD_eq_getElem _ _ (Nat.lt_of_succ_lt h),
    List.getD_eq_getElem _ _ h]

/-- One turn of the loop is one step of the streak scan. -/
theorem growthStep_succ {s : StreakCount} :
    growthStep series s (1 + j) = s.next (rising series j) := by
  rw [growthStep, Nat.add_sub_cancel_left, Nat.add_comm]
  simp only [StreakCount.next, rising, gt_iff_lt, decide_eq_true_eq]

/-- The loop is the streak scan over the neighbours of the series. -/
theorem longestMonotonicRun_eq (series : List ℤ) :
    longestMonotonicRun series = (streakScan (rising series) (series.length - 1)).best := by
  have hstep : (fun s j => growthStep series s (1 + j)) = fun s j => s.next (rising series j) := by
    funext s j
    exact growthStep_succ
  rw [longestMonotonicRun, List.range'_eq_map_range, List.foldl_map, hstep, streakScan]

/-- A rising stretch is a streak of `rising` that ends inside the series. -/
theorem rises_iff : Rises series i m ↔ i + m < series.length ∧ Streak (rising series) i m := by
  constructor
  · rintro ⟨hlen, hrises⟩
    exact ⟨hlen, fun k hk => (rising_iff (by omega)).mpr (hrises k hk)⟩
  · rintro ⟨hlen, hstreak⟩
    exact ⟨hlen, fun k hk => (rising_iff (by omega)).mp (hstreak k hk)⟩

/-- The lengths of the rising stretches. There is an empty one in every series. -/
theorem rises_eq_streaksUpTo (series : List ℤ) :
    {m | m = 0 ∨ ∃ i, Rises series i m} = streaksUpTo (rising series) (series.length - 1) := by
  ext m
  constructor
  · rintro (rfl | ⟨i, hrises⟩)
    · exact ⟨0, Nat.zero_le _, Streak.zero⟩
    · obtain ⟨hlen, hstreak⟩ := rises_iff.mp hrises
      exact ⟨i, by omega, hstreak⟩
  · rintro ⟨i, hle, hstreak⟩
    by_cases hm : m = 0
    · exact Or.inl hm
    · exact Or.inr ⟨i, rises_iff.mpr ⟨by omega, hstreak⟩⟩

/-- **The loop returns the number of rises in the longest stretch.** -/
theorem isGreatest_longestMonotonicRun (series : List ℤ) :
    IsGreatest {m | m = 0 ∨ ∃ i, Rises series i m} (longestMonotonicRun series) := by
  rw [rises_eq_streaksUpTo, longestMonotonicRun_eq]
  exact (streakScan_isGreatest _ _).2

/-- No rising stretch is longer than what the loop returns. -/
theorem Rises.le_longestMonotonicRun (h : Rises series i m) : m ≤ longestMonotonicRun series :=
  (isGreatest_longestMonotonicRun series).2 (Or.inr ⟨i, h⟩)

/-- The first rise of a stretch is a rising pair. -/
theorem Rises.pair (h : Rises series i (m + 1)) : Rises series i 1 := by
  obtain ⟨hlen, hstreak⟩ := rises_iff.mp h
  exact rises_iff.mpr ⟨by omega, fun k hk => hstreak k (by omega)⟩

/-- The loop returns 0 when no two neighbours rise. -/
theorem longestMonotonicRun_eq_zero_iff :
    longestMonotonicRun series = 0 ↔ ¬∃ i, Rises series i 1 := by
  constructor
  · rintro hzero ⟨i, hpair⟩
    have hle := hpair.le_longestMonotonicRun
    omega
  · intro hnone
    rcases (isGreatest_longestMonotonicRun series).1 with hzero | ⟨i, hrises⟩
    · exact hzero
    · cases hm : longestMonotonicRun series with
      | zero => rfl
      | succ m =>
          rw [hm] at hrises
          exact absurd ⟨i, hrises.pair⟩ hnone

/-- Samples are only compared with each other. -/
theorem rises_map_iff {f : ℤ → ℤ} (hf : ∀ a b, f a < f b ↔ a < b) :
    Rises (series.map f) i m ↔ Rises series i m := by
  simp only [Rises, List.length_map, List.getElem_map, hf]

/-- A strictly increasing change of scale leaves the result. -/
theorem longestMonotonicRun_map {f : ℤ → ℤ} (hf : ∀ a b, f a < f b ↔ a < b) :
    longestMonotonicRun (series.map f) = longestMonotonicRun series := by
  have hmap := isGreatest_longestMonotonicRun (series.map f)
  simp only [rises_map_iff hf] at hmap
  exact hmap.unique (isGreatest_longestMonotonicRun series)

/-- Samples that come later do not end a stretch. -/
theorem Rises.append_right (h : Rises series i m) (after : List ℤ) :
    Rises (series ++ after) i m := by
  obtain ⟨hlen, hrises⟩ := h
  have hlong : i + m < (series ++ after).length := by
    rw [List.length_append]
    omega
  refine ⟨hlong, fun k hk => ?_⟩
  rw [List.getElem_append_left (by omega), List.getElem_append_left (by omega)]
  exact hrises k hk

/-- Samples in front of it move a stretch along. -/
theorem Rises.append_left (h : Rises series i m) (before : List ℤ) :
    Rises (before ++ series) (before.length + i) m := by
  obtain ⟨hlen, hrises⟩ := h
  have hlong : before.length + i + m < (before ++ series).length := by
    rw [List.length_append]
    omega
  refine ⟨hlong, fun k hk => ?_⟩
  rw [List.getElem_append_right (by omega), List.getElem_append_right (by omega)]
  simpa only [Nat.add_assoc, Nat.add_sub_cancel_left] using hrises k hk

/-- More samples on either side never lower the result. -/
theorem longestMonotonicRun_append (series before after : List ℤ) :
    longestMonotonicRun series ≤ longestMonotonicRun (before ++ series ++ after) := by
  rcases (isGreatest_longestMonotonicRun series).1 with hzero | ⟨i, hrises⟩
  · rw [hzero]
    exact Nat.zero_le _
  · exact ((hrises.append_left before).append_right after).le_longestMonotonicRun

end loop

/-- **The value is the longest stretch: 0 without a rising pair, the same for shifted samples, and
no less for a longer series.** -/
theorem longestMonotonicRun_spec (series : List ℤ) :
    IsGreatest {m | m = 0 ∨ ∃ i, Rises series i m} (longestMonotonicRun series) ∧
      (longestMonotonicRun series = 0 ↔ ¬∃ i, Rises series i 1) ∧
      (∀ c, longestMonotonicRun (series.map (· + c)) = longestMonotonicRun series) ∧
      ∀ before after,
        longestMonotonicRun series ≤ longestMonotonicRun (before ++ series ++ after) := by
  refine ⟨isGreatest_longestMonotonicRun series, longestMonotonicRun_eq_zero_iff, ?_, ?_⟩
  · intro c
    exact longestMonotonicRun_map fun a b => Int.add_lt_add_iff_right c
  · exact longestMonotonicRun_append series

/-- A sample that is not higher ends the stretch: 3, 4, 5 has two rises, and 5, 6 has one. -/
example : longestMonotonicRun [3, 4, 5, 5, 6] = 2 := by decide

/-! ## The report -/

/-- `lag_series`: every sample has its `"max_offsets_behind"`, or counts as 0. -/
def lagSeries (samples : List (Option ℤ)) : List ℤ := samples.map fun s => s.getD 0

/-- The entry `"lag"`, of the samples and of how the drain ended.
Source: `bench/run_scenario.py` `build_report` -/
def lagReport (samples : List (Option ℤ)) (drained : Bool) (drainSeconds : ℚ) : LagReport where
  maxObserved := (lagSeries samples).max?.getD 0
  final := (lagSeries samples).getLast?
  longestMonotonicGrowthRun := longestMonotonicRun (lagSeries samples)
  drained := drained
  drainSeconds := drainSeconds

section report

variable {samples : List (Option ℤ)} {drained : Bool} {drainSeconds : ℚ} {series : List ℤ} {i m : ℕ}

/-- Every sample of the series is at most the maximum that is reported. -/
theorem le_maxObserved {x : ℤ} (h : x ∈ lagSeries samples) :
    x ≤ (lagReport samples drained drainSeconds).maxObserved := by
  rcases hmax : (lagSeries samples).max? with _ | highest
  · rw [List.max?_eq_none_iff] at hmax
    simp [hmax] at h
  · have hle := (List.max?_eq_some_iff.mp hmax).2 x h
    simpa [lagReport, hmax] using hle

/-- Integers that rise are one higher at each step. -/
theorem Rises.add_le (h : Rises series i m) (hlen : i + m < series.length) :
    series[i] + m ≤ series[i + m] := by
  induction m with
  | zero => simp
  | succ m ih =>
      obtain ⟨_, hrises⟩ := h
      have hbefore := ih ⟨by omega, fun k hk => hrises k (by omega)⟩ (by omega)
      have hlast := hrises m (by omega)
      simp only [← Nat.add_assoc]
      omega

/-- Lags that are not negative grow no longer than the highest of them. -/
theorem growth_le_maxObserved (h : ∀ x ∈ lagSeries samples, 0 ≤ x) :
    ((lagReport samples drained drainSeconds).longestMonotonicGrowthRun : ℤ) ≤
      (lagReport samples drained drainSeconds).maxObserved := by
  rcases (isGreatest_longestMonotonicRun (lagSeries samples)).1 with hzero | ⟨i, hrises⟩
  · rcases hmax : (lagSeries samples).max? with _ | highest
    · simp [lagReport, hzero, hmax]
    · have hmem := (List.max?_eq_some_iff.mp hmax).1
      simpa [lagReport, hzero, hmax] using h highest hmem
  · have hlen := (rises_iff.mp hrises).1
    have hfirst := h _ (List.getElem_mem (show i < (lagSeries samples).length by omega))
    have hgrown := hrises.add_le hlen
    have hmax : _ ≤ (lagReport samples drained drainSeconds).maxObserved :=
      le_maxObserved (List.getElem_mem hlen)
    have hrun : (lagReport samples drained drainSeconds).longestMonotonicGrowthRun =
        longestMonotonicRun (lagSeries samples) := rfl
    omega

/-- The growth is within a limit iff every stretch is. -/
theorem growth_le_iff {limit : ℤ} :
    (lagReport samples drained drainSeconds).longestMonotonicGrowthRun ≤ limit ↔
      0 ≤ limit ∧ ∀ i m, Rises (lagSeries samples) i m → (m : ℤ) ≤ limit := by
  constructor
  · intro hle
    refine ⟨(Int.natCast_nonneg _).trans hle, fun i m hrises => ?_⟩
    exact (Int.ofNat_le.mpr hrises.le_longestMonotonicRun).trans hle
  · rintro ⟨hzero, hall⟩
    rcases (isGreatest_longestMonotonicRun (lagSeries samples)).1 with hnone | ⟨i, hrises⟩
    · simpa [lagReport, hnone] using hzero
    · exact hall i _ hrises

/-- **A sustained step has no stretch of rising lag over the limit.** -/
theorem judge_sustained_flat {fmt : Format} {args : SweepArgs} {rate : ℚ} {r : ScenarioReport}
    (hlag : r.lag = lagReport samples drained drainSeconds)
    (hsustained : (judge fmt args rate r).sustained = true)
    (hrises : Rises (lagSeries samples) i m) : (m : ℤ) ≤ args.maxLagGrowthRun := by
  have hflat := (judge_sustained_iff.mp hsustained).flat
  rw [hlag, growth_le_iff] at hflat
  exact hflat.2 i m hrises

end report

end TripPipeline.Bench
