import Mathlib.Data.List.Sort
import Mathlib.Data.Rat.Floor
import TripPipeline.Common.Retry
import TripPipeline.Lib.Interpolate
import TripPipeline.Lib.PrefixScan

/-!
# The latency report

`bench/latency_report.py`: the percentiles of the sampled latencies, and the report with its
headline `sub_second_at`. Arithmetic is exact.

* `percentile_eq`: the three branches of `percentile` are one polygon through the sorted samples,
  read at the rank.
* `percentile_monotone`: it rises with the percentage and with the samples, between the least and
  the largest of them, and reads no index outside.
* `subSecondAt_share`: what the headline says about the number of samples under a second. The rank
  counts the `n - 1` gaps between the samples, so a share of the gaps is what it gives.
* `twoSamples_half`: a headline `p99` with half of the samples under a second.
-/

namespace TripPipeline.Bench.Latency

open TripPipeline.Common TripPipeline.Lib

/-! ## Percentiles -/

/-- `values[i]`: a negative index counts from the end. -/
def item {α : Type} (values : List α) (i : ℤ) : Except Exc α :=
  let j := if i < 0 then i + values.length else i
  match if 0 ≤ j then values[j.toNat]? else none with
  | some v => .ok v
  | none => .error ⟨"IndexError", "list index out of range", []⟩

/-- `k`, the place of a percentage among the indices. -/
def rank (n : ℕ) (p : ℚ) : ℚ := (n - 1) * (p / 100)

/-- Linear-interpolated percentile; `none` is `nan`. `p` is 0-100.
Source: `bench/latency_report.py` `percentile` -/
def percentile (sortedVals : List ℚ) (p : ℚ) : Except Exc (Option ℚ) :=
  if sortedVals.isEmpty then .ok none
  else if sortedVals.length = 1 then (item sortedVals 0).map some
  else
    let k := rank sortedVals.length p
    let lo := ⌊k⌋
    let hi := ⌈k⌉
    if lo = hi then (item sortedVals (trunc k)).map some
    else do
      let low ← item sortedVals lo
      let high ← item sortedVals hi
      .ok (some (low + (high - low) * (k - lo)))

/-! ## The report -/

/-- The figures of a run.
Source: `bench/latency_report.py` `build_report` -/
structure Figures where
  runId : String
  measuredAt : String
  samples : ℕ
  sampleRate : Option ℚ
  definition : String
  minMs : ℤ
  p50Ms : Option ℚ
  p90Ms : Option ℚ
  p95Ms : Option ℚ
  p99Ms : Option ℚ
  p999Ms : Option ℚ
  maxMs : ℤ
  meanMs : ℚ
  meanIsNotTheHeadline : String
  subSecondAt : String
  pctUnder1s : ℚ
  pctUnder500ms : ℚ
  clockCaveat : String

/-- What `build_report` returns. -/
inductive Report where
  | noSamples (runId : String) (samples : ℕ) (error : String)
  | measured (figures : Figures)

/-- `x < bound`, of a float that may be `nan`. -/
def below (bound : ℚ) : Option ℚ → Bool
  | some x => x < bound
  | none => false

/-- The samples as floats. -/
def floats (s : List ℤ) : List ℚ := s.map Int.cast

/-- The entry `"sub_second_at"`. -/
def subSecondAt (p50 p95 p99 : Option ℚ) : String :=
  if below 1000 p99 then "p99" else if below 1000 p95 then "p95"
  else if below 1000 p50 then "p50" else "none"

/-- `round(100 * sum(1 for v in s if v < bound) / n, 3)`. -/
def pctUnder (s : List ℤ) (bound : ℤ) : ℚ :=
  pyRound (100 * (s.countP fun v => v < bound) / s.length) 3

/-- The report of a run. `now` is `datetime.now(timezone.utc).isoformat()`.
Source: `bench/latency_report.py` `build_report` -/
def buildReport (now runId : String) (samples : List ℤ) (sampleRate : Option ℚ) :
    Except Exc Report := do
  let s := samples.mergeSort (· ≤ ·)
  let n := s.length
  if n = 0 then
    .ok (.noSamples runId 0 "no latency samples found - was LATENCY_SAMPLE_RATE > 0?")
  else
    let vals := floats s
    let p50 ← percentile vals 50
    let p95 ← percentile vals 95
    let p99 ← percentile vals 99
    let mean : ℚ := vals.sum / n
    let minMs ← item s 0
    let p90 ← percentile vals 90
    let p999 ← percentile vals (999 / 10)
    let maxMs ← item s (-1)
    .ok (.measured
      { runId := runId
        measuredAt := now
        samples := n
        sampleRate := sampleRate
        definition := "produced_at_ms -> cassandra write, milliseconds"
        minMs := minMs
        p50Ms := p50.map (pyRound · 1)
        p90Ms := p90.map (pyRound · 1)
        p95Ms := p95.map (pyRound · 1)
        p99Ms := p99.map (pyRound · 1)
        p999Ms := p999.map (pyRound · 1)
        maxMs := maxMs
        meanMs := pyRound mean 1
        meanIsNotTheHeadline :=
          "p95 is the figure to quote; the mean sits below it and hides the " ++
            "tail a reliability reviewer cares about"
        subSecondAt := subSecondAt p50 p95 p99
        pctUnder1s := pctUnder s 1000
        pctUnder500ms := pctUnder s 500
        clockCaveat := "producer and consumer share a host clock; this measurement contains no " ++
          "clock skew and is not evidence about cross-host clock discipline" })

/-! ## The polygon of the samples -/

/-- An index inside the list reads the list. -/
theorem item_natCast {α : Type} {values : List α} {i : ℕ} (h : i < values.length) :
    item values i = .ok values[i] := by
  have hneg : ¬(i : ℤ) < 0 := not_lt.mpr (Int.natCast_nonneg i)
  simp only [item, if_neg hneg, Int.natCast_nonneg, if_true, Int.toNat_natCast,
    List.getElem?_eq_getElem h]

/-- The index -1 reads the last element, as in Python. -/
theorem item_last {α : Type} {values : List α} (h : values ≠ []) :
    item values (-1) = .ok (values.getLast h) := by
  have hpos : 0 < values.length := List.length_pos_iff.mpr h
  have hindex : (-1 : ℤ) + values.length = ((values.length - 1 : ℕ) : ℤ) := by omega
  have hlast : values.length - 1 < values.length := by omega
  simp only [item, Int.reduceNeg, Int.reduceLT, if_true, hindex, Int.natCast_nonneg,
    Int.toNat_natCast, List.getElem?_eq_getElem hlast, List.getLast_eq_getElem]

/-- The samples as a sequence. -/
def value (s : List ℚ) (i : ℕ) : ℚ := s.getD i 0

/-- `value` reads the list where it has an entry. -/
theorem value_eq {s : List ℚ} {i : ℕ} (h : i < s.length) : value s i = s[i] := by
  rw [value, List.getD_eq_getElem?_getD, List.getElem?_eq_getElem h, Option.getD_some]

/-- `value` is 0 past the end of the list. -/
theorem value_of_le {s : List ℚ} {i : ℕ} (h : s.length ≤ i) : value s i = 0 := by
  rw [value, List.getD_eq_getElem?_getD, List.getElem?_eq_none h, Option.getD_none]

/-- A sorted list is monotone in its indices. -/
theorem monotoneOn_value {s : List ℚ} (hs : s.Pairwise (· ≤ ·)) :
    MonotoneOn (value s) (Set.Iic (s.length - 1)) := by
  intro i hi j hj hij
  rcases s with _ | ⟨a, s⟩
  · rfl
  · have hj' : j < (a :: s).length := Nat.lt_succ_of_le (Set.mem_Iic.mp hj)
    rw [value_eq (hij.trans_lt hj'), value_eq hj']
    rcases hij.eq_or_lt with rfl | hlt
    · exact le_rfl
    · exact List.pairwise_iff_getElem.mp hs i j _ hj' hlt

section rank

variable {n : ℕ} {p q : ℚ}

/-- The fractional rank is not negative. -/
theorem rank_nonneg (hn : n ≠ 0) (hp : 0 ≤ p) : 0 ≤ rank n p := by
  have hn' : (1 : ℚ) ≤ n := by exact_mod_cast Nat.one_le_iff_ne_zero.mpr hn
  exact mul_nonneg (by linarith) (by linarith)

/-- A larger percentile has a larger rank. -/
theorem rank_mono (hn : n ≠ 0) (h : p ≤ q) : rank n p ≤ rank n q := by
  have hn' : (1 : ℚ) ≤ n := by exact_mod_cast Nat.one_le_iff_ne_zero.mpr hn
  exact mul_le_mul_of_nonneg_left (by linarith) (by linarith)

/-- The 0th percentile has rank 0. -/
@[simp] theorem rank_zero (n : ℕ) : rank n 0 = 0 := by simp [rank]

/-- The 100th percentile has the last index as its rank. -/
theorem rank_hundred (hn : n ≠ 0) : rank n 100 = ((n - 1 : ℕ) : ℚ) := by
  rw [rank, div_self (by norm_num), mul_one, Nat.cast_pred (Nat.pos_of_ne_zero hn)]

/-- The rank of a percentile up to 100 stays inside the list. -/
theorem rank_le (hn : n ≠ 0) (hp : p ≤ 100) : rank n p ≤ ((n - 1 : ℕ) : ℚ) :=
  (rank_mono hn hp).trans_eq (rank_hundred hn)

end rank

/-- **A percentile is the polygon of the samples at its rank.** -/
theorem percentile_eq {s : List ℚ} {p : ℚ} (hs : s ≠ []) (h0 : 0 ≤ p) (h100 : p ≤ 100) :
    percentile s p = .ok (some (interp (value s) (rank s.length p))) := by
  have hn : s.length ≠ 0 := fun h => hs (List.length_eq_zero_iff.mp h)
  have hk := rank_nonneg hn h0
  have hkn := rank_le hn h100
  have hempty : s.isEmpty = false := List.isEmpty_eq_false_iff.mpr hs
  have hfloor : ⌊rank s.length p⌋ = (⌊rank s.length p⌋₊ : ℤ) := (Int.natCast_floor_eq_floor hk).symm
  have hceil : ⌈rank s.length p⌉ = (⌈rank s.length p⌉₊ : ℤ) := (Int.natCast_ceil_eq_ceil hk).symm
  have hceil_lt : ⌈rank s.length p⌉₊ < s.length := by
    have := Nat.ceil_le.mpr hkn
    omega
  have hfloor_lt : ⌊rank s.length p⌋₊ < s.length := (Nat.floor_le_ceil _).trans_lt hceil_lt
  rw [percentile, hempty, if_neg Bool.false_ne_true]
  by_cases hone : s.length = 1
  · -- one sample, and the rank is 0
    have hzero : rank s.length p = (0 : ℕ) := by simp [rank, hone]
    have hpos : 0 < s.length := Nat.pos_of_ne_zero hn
    have hitem : item s 0 = .ok s[0] := item_natCast hpos
    rw [if_pos hone, hzero, interp_natCast, value_eq hpos, hitem]
    rfl
  rw [if_neg hone]
  dsimp only
  rw [hfloor, hceil]
  split_ifs with hint
  · -- the rank is an index
    have hrank : rank s.length p = ⌊rank s.length p⌋₊ := by
      refine le_antisymm ?_ (Nat.floor_le hk)
      rw [Nat.cast_inj.mp hint]
      exact Nat.le_ceil _
    have htrunc : trunc (rank s.length p) = (⌊rank s.length p⌋₊ : ℤ) := by
      rw [trunc, if_pos hk, hfloor]
    rw [htrunc, item_natCast hfloor_lt, interp, ← Nat.cast_inj.mp hint, sub_self, zero_mul,
      add_zero, value_eq hfloor_lt]
    rfl
  · rw [item_natCast hfloor_lt, item_natCast hceil_lt, interp, value_eq hfloor_lt,
      value_eq hceil_lt]
    rfl

/-! ## Percentiles rise -/

section monotone

variable {s t : List ℚ} {p q : ℚ}

/-- The value at 0 is the head. -/
theorem value_head (hs : s ≠ []) : value s 0 = s.head hs := by
  rw [value_eq (List.length_pos_iff.mpr hs), List.head_eq_getElem]

/-- The value at the last index is the last entry. -/
theorem value_last (hs : s ≠ []) : value s (s.length - 1) = s.getLast hs := by
  rw [value_eq (Nat.sub_lt (List.length_pos_iff.mpr hs) Nat.one_pos), List.getLast_eq_getElem]

/-- The 0th percentile is the smallest entry of the sorted list. -/
theorem percentile_zero (hs : s ≠ []) : percentile s 0 = .ok (some (s.head hs)) := by
  have hinterp : interp (value s) (0 : ℚ) = value s 0 := by
    exact_mod_cast interp_natCast (value s) 0
  rw [percentile_eq hs le_rfl (by norm_num), rank_zero, hinterp, value_head hs]

/-- The 100th percentile is the largest entry of the sorted list. -/
theorem percentile_hundred (hs : s ≠ []) : percentile s 100 = .ok (some (s.getLast hs)) := by
  rw [percentile_eq hs (by norm_num) le_rfl,
    rank_hundred fun h => hs (List.length_eq_zero_iff.mp h), interp_natCast, value_last hs]

/-- The indices that `percentile` reads. -/
theorem index_mem (hs : s ≠ []) (h0 : 0 ≤ p) (h100 : p ≤ 100) :
    0 ≤ ⌊rank s.length p⌋ ∧ trunc (rank s.length p) = ⌊rank s.length p⌋ ∧
      ⌊rank s.length p⌋ ≤ ⌈rank s.length p⌉ ∧ ⌈rank s.length p⌉ < s.length := by
  have hn : s.length ≠ 0 := fun h => hs (List.length_eq_zero_iff.mp h)
  have hk := rank_nonneg hn h0
  have hceil : ⌈rank s.length p⌉ ≤ ((s.length - 1 : ℕ) : ℤ) := by
    rw [Int.ceil_le]
    exact_mod_cast rank_le hn h100
  refine ⟨Int.floor_nonneg.mpr hk, if_pos hk, Int.floor_le_ceil _, ?_⟩
  omega

/-- **A percentile rises with the percentage and with the samples**, from the least sample to the
largest. -/
theorem percentile_monotone (hs : s ≠ []) (hsorted : s.Pairwise (· ≤ ·)) (h0 : 0 ≤ p)
    (hpq : p ≤ q) (h100 : q ≤ 100) :
    (∃ a b, percentile s p = .ok (some a) ∧ percentile s q = .ok (some b) ∧
        s.head hs ≤ a ∧ a ≤ b ∧ b ≤ s.getLast hs) ∧
      (0 ≤ ⌊rank s.length p⌋ ∧ trunc (rank s.length p) = ⌊rank s.length p⌋ ∧
        ⌊rank s.length p⌋ ≤ ⌈rank s.length p⌉ ∧ ⌈rank s.length p⌉ < s.length) ∧
      percentile s 0 = .ok (some (s.head hs)) ∧
      percentile s 100 = .ok (some (s.getLast hs)) ∧
      ∀ t : List ℚ, List.Forall₂ (· ≤ ·) s t →
        ∃ a b, percentile s p = .ok (some a) ∧ percentile t p = .ok (some b) ∧ a ≤ b := by
  have hn : s.length ≠ 0 := fun h => hs (List.length_eq_zero_iff.mp h)
  have hp : p ≤ 100 := hpq.trans h100
  have hq : 0 ≤ q := h0.trans hpq
  have hk := rank_nonneg hn h0
  have hmono := monotoneOn_value hsorted
  refine ⟨⟨_, _, percentile_eq hs h0 hp, percentile_eq hs hq h100, ?_, ?_, ?_⟩,
    index_mem hs h0 hp, percentile_zero hs, percentile_hundred hs, ?_⟩
  · rw [← value_head hs, ← interp_natCast (value s) 0]
    exact interp_mono hmono (Nat.cast_nonneg 0) (by exact_mod_cast hk) (rank_le hn hp)
  · exact interp_mono hmono hk (rank_mono hn hpq) (rank_le hn h100)
  · rw [← value_last hs, ← interp_natCast (value s) (s.length - 1)]
    exact interp_mono hmono (rank_nonneg hn hq) (rank_le hn h100) le_rfl
  · intro t hle
    have hlength := hle.length_eq
    have ht : t ≠ [] := fun h => hn (by rw [hlength, h, List.length_nil])
    have hvalue : ∀ i, value s i ≤ value t i := by
      intro i
      by_cases hi : i < s.length
      · rw [value_eq hi, value_eq (hlength ▸ hi)]
        exact (List.forall₂_iff_get.mp hle).2 i hi (hlength ▸ hi)
      · rw [value_of_le (not_lt.mp hi), value_of_le (hlength ▸ not_lt.mp hi)]
    refine ⟨_, _, percentile_eq hs h0 hp, percentile_eq ht h0 hp, ?_⟩
    rw [← hlength]
    exact interp_le_interp hk (hvalue _) (hvalue _)

/-- Three samples: the quartile and the median, and samples that are 1 larger. -/
theorem percentile_monotone_three :
    (∃ a b, percentile [1, 3, 8] 25 = .ok (some a) ∧ percentile [1, 3, 8] 50 = .ok (some b) ∧
        1 ≤ a ∧ a ≤ b ∧ b ≤ 8) ∧
      ∃ a b, percentile [1, 3, 8] 25 = .ok (some a) ∧ percentile [2, 4, 9] 25 = .ok (some b) ∧
        a ≤ b := by
  have h := percentile_monotone (s := [1, 3, 8]) (p := 25) (q := 50) (List.cons_ne_nil _ _)
    (by decide) (by norm_num) (by norm_num) (by norm_num)
  exact ⟨h.1, h.2.2.2.2 [2, 4, 9] (by decide)⟩

end monotone

/-! ## The headline -/

section share

variable {s : List ℚ} {c p : ℚ}

/-- **A percentile under the bound**: more samples are under it than the rank says. -/
theorem rank_lt_countP (hs : s ≠ []) (hsorted : s.Pairwise (· ≤ ·)) (h0 : 0 ≤ p) (h100 : p ≤ 100)
    (h : interp (value s) (rank s.length p) < c) :
    rank s.length p < (s.countP fun v => v < c : ℕ) := by
  have hn : s.length ≠ 0 := fun h => hs (List.length_eq_zero_iff.mp h)
  have hk := rank_nonneg hn h0
  have hlt : ⌊rank s.length p⌋₊ < s.length := by
    have := (Nat.floor_le_ceil (rank s.length p)).trans (Nat.ceil_le.mpr (rank_le hn h100))
    omega
  have hlow := (le_interp (monotoneOn_value hsorted) hk (rank_le hn h100)).trans_lt h
  rw [value_eq hlt] at hlow
  exact (Nat.floor_lt hk).mp (lt_countP_lt hsorted hlt hlow)

/-- **A percentile at the bound or over it**: at most as many samples are under it as the rank,
taken up, says. -/
theorem countP_le_ceil (hs : s ≠ []) (hsorted : s.Pairwise (· ≤ ·)) (h0 : 0 ≤ p) (h100 : p ≤ 100)
    (h : c ≤ interp (value s) (rank s.length p)) :
    (s.countP fun v => v < c) ≤ ⌈rank s.length p⌉₊ := by
  have hn : s.length ≠ 0 := fun h => hs (List.length_eq_zero_iff.mp h)
  have hceil := Nat.ceil_le.mpr (rank_le hn h100)
  have hlt : ⌈rank s.length p⌉₊ < s.length := by omega
  have hhigh := h.trans (interp_le (monotoneOn_value hsorted) (rank_nonneg hn h0) (rank_le hn h100))
  rw [value_eq hlt] at hhigh
  exact countP_lt_le hsorted hlt hhigh

/-- The rank of the median, taken up, is at most half of the samples. -/
theorem two_mul_ceil_rank (n : ℕ) : 2 * ⌈rank n 50⌉₊ ≤ n := by
  have hhalf : rank n 50 ≤ (n / 2 : ℕ) := by
    have hmod : ((2 * (n / 2) + n % 2 : ℕ) : ℚ) = n := by rw [Nat.div_add_mod]
    have hlt : ((n % 2 : ℕ) : ℚ) ≤ 1 := by exact_mod_cast Nat.le_of_lt_succ (Nat.mod_lt n two_pos)
    push_cast at hmod
    unfold rank
    linarith
  have := Nat.ceil_le.mpr hhalf
  omega

end share

/-- The samples as the report reads them. -/
theorem pairwise_floats (samples : List ℤ) :
    (floats (samples.mergeSort (· ≤ ·))).Pairwise (· ≤ ·) := by
  have hsorted : (samples.mergeSort (· ≤ ·)).Pairwise (· ≤ ·) :=
    List.pairwise_mergeSort' (· ≤ ·) samples
  rw [floats, List.pairwise_map]
  exact hsorted.imp fun h => Int.cast_le.mpr h

/-- As many sorted values as samples lie below a bound. -/
theorem countP_floats (samples : List ℤ) (bound : ℤ) :
    ((floats (samples.mergeSort (· ≤ ·))).countP fun v => v < (bound : ℚ)) =
      samples.countP fun v => v < bound := by
  rw [floats, List.countP_map, ← (List.mergeSort_perm samples (· ≤ ·)).countP_eq]
  refine List.countP_congr fun v _ => ?_
  simp

/-- The percentile of a report, as `build_report` compares it with a second. -/
def percentileOf (samples : List ℤ) (p : ℚ) : ℚ :=
  interp (value (floats (samples.mergeSort (· ≤ ·)))) (rank samples.length p)

section report

variable {samples : List ℤ}

/-- Sorting keeps the number of samples. -/
theorem length_floats (samples : List ℤ) :
    (floats (samples.mergeSort (· ≤ ·))).length = samples.length := by
  rw [floats, List.length_map, List.length_mergeSort]

/-- The sorted values are empty only when the samples are. -/
theorem floats_ne_nil (h : samples ≠ []) : floats (samples.mergeSort (· ≤ ·)) ≠ [] := by
  rw [← List.length_pos_iff, length_floats]
  exact List.length_pos_iff.mpr h

/-- A report of samples has its headline from three percentiles. -/
theorem exists_figures (now runId : String) (sampleRate : Option ℚ) (h : samples ≠ []) :
    ∃ r, buildReport now runId samples sampleRate = .ok (.measured r) ∧
      r.subSecondAt = subSecondAt (some (percentileOf samples 50)) (some (percentileOf samples 95))
        (some (percentileOf samples 99)) := by
  have hlength : (samples.mergeSort (· ≤ ·)).length = samples.length :=
    List.length_mergeSort samples
  have hn : samples.length ≠ 0 := fun hzero => h (List.length_eq_zero_iff.mp hzero)
  have hsort : samples.mergeSort (· ≤ ·) ≠ [] := by
    rw [← List.length_pos_iff, hlength]
    exact Nat.pos_of_ne_zero hn
  have hp : ∀ p : ℚ, 0 ≤ p → p ≤ 100 →
      percentile (floats (samples.mergeSort (· ≤ ·))) p = .ok (some (percentileOf samples p)) := by
    intro p h0 h100
    rw [percentile_eq (floats_ne_nil h) h0 h100, length_floats, percentileOf]
  have hfirst : item (samples.mergeSort (· ≤ ·)) 0 = .ok _ :=
    item_natCast (List.length_pos_iff.mpr hsort)
  unfold buildReport
  simp only [hlength, if_neg hn, hp 50 (by norm_num) (by norm_num),
    hp 95 (by norm_num) (by norm_num), hp 99 (by norm_num) (by norm_num),
    hp 90 (by norm_num) (by norm_num), hp (999 / 10) (by norm_num) (by norm_num), hfirst,
    item_last hsort, bind, Except.bind]
  exact ⟨_, rfl, rfl⟩

/-- Which percentile a headline is about. -/
theorem subSecondAt_cases (x y z : ℚ) :
    (subSecondAt (some x) (some y) (some z) = "p99" ∧ z < 1000) ∨
      (subSecondAt (some x) (some y) (some z) = "p95" ∧ y < 1000) ∨
      (subSecondAt (some x) (some y) (some z) = "p50" ∧ x < 1000) ∨
      (subSecondAt (some x) (some y) (some z) = "none" ∧ 1000 ≤ x) := by
  unfold subSecondAt below
  simp only [decide_eq_true_eq]
  split_ifs with h99 h95 h50
  · exact Or.inl ⟨rfl, h99⟩
  · exact Or.inr (Or.inl ⟨rfl, h95⟩)
  · exact Or.inr (Or.inr (Or.inl ⟨rfl, h50⟩))
  · exact Or.inr (Or.inr (Or.inr ⟨rfl, not_lt.mp h50⟩))

/-- A percentile under a second: its share of the gaps is under a second. -/
theorem share_of_lt (h : samples ≠ []) {m : ℕ} (hm : m ≤ 100)
    (hlt : percentileOf samples m < 1000) :
    m * (samples.length - 1) < 100 * samples.countP fun v => v < 1000 := by
  have hcount := countP_floats samples 1000
  have hpred : ((samples.length - 1 : ℕ) : ℚ) = samples.length - 1 :=
    Nat.cast_pred (List.length_pos_iff.mpr h)
  have hm' : (m : ℚ) ≤ 100 := by exact_mod_cast hm
  rw [percentileOf, ← length_floats] at hlt
  have hrank :=
    rank_lt_countP (floats_ne_nil h) (pairwise_floats samples) (Nat.cast_nonneg m) hm' hlt
  push_cast at hcount
  rw [hcount, length_floats, rank, ← hpred] at hrank
  have : (m : ℚ) * (samples.length - 1 : ℕ) < 100 * (samples.countP fun v => v < 1000 : ℕ) := by
    linarith
  exact_mod_cast this

/-- A median of a second or more: at most half is under a second. -/
theorem half_of_le (h : samples ≠ []) (hle : 1000 ≤ percentileOf samples 50) :
    2 * (samples.countP fun v => v < 1000) ≤ samples.length := by
  have hcount := countP_floats samples 1000
  rw [percentileOf, ← length_floats] at hle
  have hceil := countP_le_ceil (floats_ne_nil h) (pairwise_floats samples) (by norm_num)
    (by norm_num) hle
  push_cast at hcount
  rw [hcount, length_floats] at hceil
  have := two_mul_ceil_rank samples.length
  omega

/-- **What the headline says about the share under a second**: `p50` and `none` are about the
samples, `p95` and `p99` about one sample less. -/
theorem subSecondAt_share (now runId : String) (sampleRate : Option ℚ) (h : samples ≠ []) :
    ∃ r, buildReport now runId samples sampleRate = .ok (.measured r) ∧
      (r.subSecondAt = "p50" →
        50 * samples.length ≤ 100 * samples.countP fun v => v < 1000) ∧
      (r.subSecondAt = "p95" →
        95 * (samples.length - 1) < 100 * samples.countP fun v => v < 1000) ∧
      (r.subSecondAt = "p99" →
        99 * (samples.length - 1) < 100 * samples.countP fun v => v < 1000) ∧
      (r.subSecondAt = "none" → 2 * (samples.countP fun v => v < 1000) ≤ samples.length) := by
  obtain ⟨r, hr, hsub⟩ := exists_figures now runId sampleRate h
  refine ⟨r, hr, ?_⟩
  rcases subSecondAt_cases (percentileOf samples 50) (percentileOf samples 95)
    (percentileOf samples 99) with ⟨heq, hlt⟩ | ⟨heq, hlt⟩ | ⟨heq, hlt⟩ | ⟨heq, hle⟩
  · rw [hsub, heq]
    exact ⟨by simp, by simp, fun _ => share_of_lt h (by norm_num) hlt, by simp⟩
  · rw [hsub, heq]
    exact ⟨by simp, fun _ => share_of_lt h (by norm_num) hlt, by simp, by simp⟩
  · rw [hsub, heq]
    refine ⟨fun _ => ?_, by simp, by simp, by simp⟩
    have hgaps : 50 * (samples.length - 1) < 100 * samples.countP fun v => v < 1000 :=
      share_of_lt h (by norm_num) hlt
    omega
  · rw [hsub, heq]
    exact ⟨by simp, by simp, by simp, fun _ => half_of_le h hle⟩

end report

/-! ## Two reports -/

/-- Ten samples, nine of them under a second. -/
theorem subSecondAt_share_ten :
    ∃ r, buildReport "now" "run" [20, 30, 40, 50, 60, 70, 80, 90, 95, 5000] none =
        .ok (.measured r) ∧
      (r.subSecondAt = "p50" →
        50 * 10 ≤ 100 * [20, 30, 40, 50, 60, 70, 80, 90, 95, 5000].countP
          fun v : ℤ => v < 1000) := by
  have hne : [20, 30, 40, 50, 60, 70, 80, 90, 95, 5000] ≠ ([] : List ℤ) := List.cons_ne_nil _ _
  obtain ⟨r, hr, h50, -⟩ := subSecondAt_share "now" "run" none hne
  exact ⟨r, hr, h50⟩

/-- Two samples, one under a second: the headline is `p99`, the share is half. -/
theorem twoSamples_half :
    ∃ r, buildReport "now" "run" [0, 1000] none = .ok (.measured r) ∧ r.subSecondAt = "p99" ∧
      ¬99 * [(0 : ℤ), 1000].length ≤ 100 * [(0 : ℤ), 1000].countP fun v => v < 1000 := by
  have hne : [0, 1000] ≠ ([] : List ℤ) := List.cons_ne_nil _ _
  obtain ⟨r, hr, hsub⟩ := exists_figures "now" "run" none hne
  have hsort : [(0 : ℤ), 1000].mergeSort (· ≤ ·) = [0, 1000] :=
    List.mergeSort_eq_self (r := (· ≤ ·)) (by decide)
  have hrank : rank 2 99 = 99 / 100 := by norm_num [rank]
  have hfloor : ⌊(99 / 100 : ℚ)⌋₊ = 0 := by norm_num
  have hceil : ⌈(99 / 100 : ℚ)⌉₊ = 1 := by
    rw [Nat.ceil_eq_iff one_ne_zero]
    norm_num
  have h99 : percentileOf [0, 1000] 99 = 990 := by
    simp only [percentileOf, hsort, List.length_cons, List.length_nil, hrank, interp, hfloor, hceil]
    norm_num [value, floats]
  refine ⟨r, hr, ?_, by decide⟩
  rw [hsub, h99]
  rfl

end TripPipeline.Bench.Latency
