import TripPipeline.Streaming.Watermark

/-!
# Restarting the driver

The offsets of the query come back from the checkpoint, the mark does not: `TripStream.__init__`
sets `_max_event_ms` to `None`, and nothing reads it from anywhere. So the batches after a restart
are judged against the event times seen since the restart.

* **Runs.** `Runs conf batches crashes`: the driver executes the first batch that is not committed,
  its offsets are committed afterwards, and, if `crashes` are allowed, the driver dies and a new one
  takes over, at any point of this.
* **The mark only falls behind** (`markLe_of_runs`): the mark of a driver is at most the mark of a
  run without crashes (`markAfter`), whatever the doubles in between do to either.
* **Lateness after a restart** (`routedLate_eq_iff`): a run with crashes routes the same rows to the
  DLQ as late iff every batch has been completed by a driver whose mark was high enough for its
  late rows.
-/

namespace TripPipeline.Streaming

open TripPipeline.Common TripPipeline.Lib

/-! ## Runs -/

/-- An execution of `_process_batch` that completed. -/
structure Completion where
  /-- The number of the batch. -/
  index : ℕ
  /-- The driver's `_max_event_ms` before. -/
  mark : Option ℤ
  out : BatchRun

/-- The query: its checkpoint, its driver, and the executions that completed so far. -/
structure QueryState where
  /-- The number of batches in the commit log. -/
  committed : ℕ
  /-- `self._max_event_ms` of the running driver. -/
  mark : Option ℤ
  /-- The running driver has completed the first uncommitted batch. -/
  ran : Bool
  completions : List Completion

/-- The query over the listed batches. A crash inside `_process_batch` leaves no completed
execution; whatever it had done to the mark is gone with the driver.
Source: `streaming/stream_job.py` `TripStream.run`, `TripStream.__init__` -/
inductive Runs (conf : StreamConf) (batches : List Frame) (crashes : Prop) : QueryState → Prop
  | start : Runs conf batches crashes ⟨0, none, false, []⟩
  | complete {s batch env out} : Runs conf batches crashes s → s.ran = false →
      batches[s.committed]? = some batch → processBatch conf env s.mark batch = .ok out →
      Runs conf batches crashes
        ⟨s.committed, out.maxEventMs, true, s.completions ++ [⟨s.committed, s.mark, out⟩]⟩
  | commit {s} : Runs conf batches crashes s → s.ran = true →
      Runs conf batches crashes { s with committed := s.committed + 1, ran := false }
  | crash {s} : Runs conf batches crashes s → crashes →
      Runs conf batches crashes { s with mark := none, ran := false }

/-- The rows that the completed executions wrote to the DLQ as `late_event`, with their batches. -/
def QueryState.routedLate (s : QueryState) : Set (ℕ × StreamRow) :=
  {p | ∃ c ∈ s.completions, c.index = p.1 ∧ p.2 ∈ c.out.routes.lateWrite.rows}

/-- The number of batches the running driver has behind it. -/
def QueryState.position (s : QueryState) : ℕ := s.committed + s.ran.toNat

/-! ## The mark as a function of the batches -/

/-- The mark after a batch. -/
def markStep (conf : StreamConf) (mark : Option ℤ) (batch : Frame) : Option ℤ :=
  if batch.count = 0 then mark
  else
    match route conf mark batch with
    | .ok routes => advance mark (highWater routes.good)
    | .error _ => mark

/-- The mark of one driver that has processed these batches. -/
def markAfter (conf : StreamConf) (batches : List Frame) : Option ℤ :=
  batches.foldl (markStep conf) none

/-- A batch that returns moves the mark as `markStep` does. -/
theorem processBatch_mark {conf : StreamConf} {env : BatchEnv} {mark : Option ℤ} {batch : Frame}
    {out : BatchRun} (h : processBatch conf env mark batch = .ok out) :
    out.maxEventMs = markStep conf mark batch := by
  unfold markStep
  by_cases hrows : batch.count = 0
  · rw [if_pos hrows]
    exact (processBatch_empty h hrows).1
  · have hdone := processBatch_completed h hrows
    rw [if_neg hrows, hdone.routed]
    exact hdone.advanced

/-- The mark after one more batch. -/
theorem markAfter_take_succ {conf : StreamConf} {batches : List Frame} {i : ℕ} {batch : Frame}
    (h : batches[i]? = some batch) :
    markAfter conf (batches.take (i + 1)) =
      markStep conf (markAfter conf (batches.take i)) batch := by
  rw [List.take_add_one, h, Option.toList_some, markAfter, List.foldl_append]
  rfl

/-- A mark is no time before 1970. -/
def MarkNonneg (m : Option ℤ) : Prop := ∀ k, m = some k → 0 ≤ k

/-- A batch leaves a mark that is not negative so. -/
theorem markNonneg_markStep {conf : StreamConf} {mark : Option ℤ} (h : MarkNonneg mark)
    (batch : Frame) : MarkNonneg (markStep conf mark batch) := by
  unfold markStep
  split_ifs
  · exact h
  split
  · rename_i routes _
    rcases highWater routes.good with _ | hw
    · exact h
    · intro k hk
      rw [← Option.some.inj hk]
      apply le_max_of_le_left
      rcases mark with _ | m
      · exact le_rfl
      · exact h m rfl
  · exact h

/-- The mark is never negative. -/
theorem markNonneg_markAfter (conf : StreamConf) (batches : List Frame) :
    MarkNonneg (markAfter conf batches) := by
  have hfold : ∀ mark, MarkNonneg mark → MarkNonneg (batches.foldl (markStep conf) mark) := by
    induction batches with
    | nil => exact fun mark hmark => hmark
    | cons batch batches ih =>
        intro mark hmark
        exact ih _ (markNonneg_markStep hmark batch)
  exact hfold none fun k hk => by cases hk

/-! ## One batch, two marks -/

/-- An event time is late for a driver with this mark. -/
def Late (conf : StreamConf) (mark : Option ℤ) (t : ℤ) : Prop :=
  conf.latePolicy ≠ "process" ∧ ∃ m c, mark = some m ∧ cutoffOf conf m = .ok c ∧ t < c

/-- One mark is behind another. -/
def MarkLe (m M : Option ℤ) : Prop := ∀ k, m = some k → ∃ K, M = some K ∧ k ≤ K

/-- A mark is at most itself. -/
theorem MarkLe.refl (m : Option ℤ) : MarkLe m m := fun k hk => ⟨k, hk, le_rfl⟩

/-- No mark is below every mark. -/
theorem markLe_none (M : Option ℤ) : MarkLe none M := fun k hk => by cases hk

/-- The order of the marks is transitive. -/
theorem MarkLe.trans {a b c : Option ℤ} (hab : MarkLe a b) (hbc : MarkLe b c) : MarkLe a c := by
  intro k hk
  obtain ⟨j, hj, hkj⟩ := hab k hk
  obtain ⟨i, hi, hji⟩ := hbc j hj
  exact ⟨i, hi, le_trans hkj hji⟩

/-- Any two marks compare. -/
theorem markLe_total (a b : Option ℤ) : MarkLe a b ∨ MarkLe b a := by
  rcases a with _ | j
  · exact Or.inl (markLe_none b)
  rcases b with _ | k
  · exact Or.inr (markLe_none _)
  rcases le_total j k with h | h
  · refine Or.inl fun i hi => ⟨k, rfl, ?_⟩
    rwa [← Option.some.inj hi]
  · refine Or.inr fun i hi => ⟨j, rfl, ?_⟩
    rwa [← Option.some.inj hi]

/-- `self._max_event_ms or 0` is monotone in the mark. -/
theorem MarkLe.getD_le {m M : Option ℤ} (h : MarkLe m M) (hM : MarkNonneg M) :
    m.getD 0 ≤ M.getD 0 := by
  rcases m with _ | k
  · rcases M with _ | K
    · exact le_rfl
    · exact hM K rfl
  · obtain ⟨K, rfl, hle⟩ := h k rfl
    exact hle

/-- A later mark has a later cutoff. -/
theorem cutoffOf_mono {conf : StreamConf} {k K c C : ℤ} (h : k ≤ K)
    (hc : cutoffOf conf k = .ok c) (hC : cutoffOf conf K = .ok C) : c ≤ C := by
  have hinv : ∀ m d, cutoffOf conf m = .ok d →
      d = secondsToMicros (fl (fl (m - conf.allowedLatenessSec * 1000 : ℤ) / 1000)) := by
    intro m d hd
    unfold cutoffOf fromTimestamp checkRange at hd
    split_ifs at hd
    exact (Except.ok.inj hd).symm
  rw [hinv k c hc, hinv K C hC]
  apply secondsToMicros_mono
  apply fl_mono
  have hle : ((k - conf.allowedLatenessSec * 1000 : ℤ) : ℚ) ≤
      (K - conf.allowedLatenessSec * 1000 : ℤ) := by
    exact_mod_cast sub_le_sub_right h _
  exact div_le_div_of_nonneg_right (fl_mono hle) (by norm_num)

/-- A cutoff before 1970 leaves event times that are no mark. -/
theorem fl_highWater_nonpos {K c t : ℤ} (hK : K < 0)
    (hc : secondsToMicros (fl (fl (K : ℚ) / 1000)) = c) (ht : t < c) :
    fl (fl ((t : ℚ) / 1000000) * 1000) ≤ 0 := by
  have hKq : (K : ℚ) ≤ 0 := by exact_mod_cast hK.le
  have hseconds : fl (fl (K : ℚ) / 1000) ≤ 0 := by
    apply fl_nonpos
    linarith [fl_nonpos hKq]
  have hc0 : c ≤ 0 := by
    have hmono := secondsToMicros_mono hseconds
    rwa [hc, show secondsToMicros 0 = 0 by decide +kernel] at hmono
  have htq : (t : ℚ) / 1000000 ≤ 0 := by
    have ht0 : (t : ℚ) ≤ 0 := by exact_mod_cast (ht.trans_le hc0).le
    linarith
  apply fl_nonpos
  linarith [fl_nonpos htq]

/-- Between a mark, the double of seconds of its cutoff and an event time before the cutoff, four
roundings stay below the next millisecond. -/
theorem fl_highWater_lt {K c t : ℤ} (hK : 0 ≤ K)
    (hc : secondsToMicros (fl (fl (K : ℚ) / 1000)) = c) (hmax : c ≤ datetimeMax) (ht : t < c) :
    fl (fl ((t : ℚ) / 1000000) * 1000) < K + 1 := by
  set z : ℚ := fl (fl (K : ℚ) / 1000) with hz
  have hKq : (0 : ℚ) ≤ K := by exact_mod_cast hK
  obtain ⟨hf0, hf1⟩ := fl_bounds hKq
  have hfpos := fl_nonneg hKq
  have hseconds : 0 ≤ fl (K : ℚ) / 1000 := by positivity
  obtain ⟨hz0, hz1⟩ := fl_bounds hseconds
  rw [← hz] at hz0 hz1
  have hzpos : 0 ≤ z := fl_nonneg hseconds
  obtain ⟨hc0, hc1⟩ := abs_le.mp (abs_secondsToMicros_sub_le z)
  rw [hc] at hc0 hc1
  have hmaxq : (c : ℚ) ≤ 253402300800 * 1000000 := by
    unfold datetimeMax at hmax
    exact_mod_cast (by omega : c ≤ 253402300800 * 1000000)
  have htc : (t : ℚ) + 1 ≤ c := by exact_mod_cast ht
  have htz : fl ((t : ℚ) / 1000000) ≤ fl z := fl_mono (by linarith)
  obtain ⟨-, hzz⟩ := fl_bounds hzpos
  have hprod : fl (fl ((t : ℚ) / 1000000) * 1000) ≤ fl (fl z * 1000) := fl_mono (by linarith)
  obtain ⟨-, hlast⟩ := fl_bounds (mul_nonneg (fl_nonneg hzpos) (by norm_num : (0 : ℚ) ≤ 1000))
  norm_num at hf0 hf1 hz0 hz1 hzz hlast hmaxq
  linarith

/-- An event time before the cutoff of a mark gives no later mark, whatever the doubles do:
`_process_batch` turns microseconds into a double of seconds and back on both ways. -/
theorem highWaterMs_le_of_lt_cutoff {conf : StreamConf} {K c t : ℤ} (hK : 0 ≤ K)
    (hc : cutoffOf conf K = .ok c) (ht : t < c) : highWaterMs t ≤ K := by
  unfold cutoffOf fromTimestamp checkRange at hc
  split_ifs at hc with hrange
  rw [Except.ok.inj hc] at hrange
  have hc' := Except.ok.inj hc
  have hle : K - conf.allowedLatenessSec * 1000 ≤ K := by omega
  generalize K - conf.allowedLatenessSec * 1000 = K' at hc' hle
  have hKq : (K' : ℚ) ≤ K := by exact_mod_cast hle
  have hKpos : (0 : ℚ) ≤ K := by exact_mod_cast hK
  refine trunc_le_of_lt hK ?_
  rcases lt_or_ge K' 0 with hneg | hpos
  · linarith [fl_highWater_nonpos hneg hc' ht]
  · linarith [fl_highWater_lt hpos hc' hrange.2 ht]

section batch

variable {conf : StreamConf} {env : BatchEnv} {mark : Option ℤ} {batch : Frame} {out : BatchRun}

/-- With a mark and its cutoff. -/
theorem late_some_iff {m c t : ℤ} (hpolicy : conf.latePolicy ≠ "process")
    (hc : cutoffOf conf m = .ok c) : Late conf (some m) t ↔ t < c := by
  constructor
  · rintro ⟨-, m', c', hm, hc', hlt⟩
    obtain rfl := Option.some.inj hm
    rwa [Except.ok.inj (hc.symm.trans hc')]
  · intro hlt
    exact ⟨hpolicy, m, c, rfl, hc, hlt⟩

/-- The rows written to the DLQ as `late_event`. -/
theorem mem_lateWrite (h : processBatch conf env mark batch = .ok out) {r : StreamRow} :
    r ∈ out.routes.lateWrite.rows ↔
      conf.latePolicy = "dlq" ∧ (r ∈ batch.rows ∧ r.unparseable = false) ∧
        ∃ t, r.event.eventTime = some t ∧ Late conf mark t := by
  by_cases hrows : batch.count = 0
  · rw [(processBatch_empty h hrows).2.1]
    refine iff_of_false List.not_mem_nil ?_
    rintro ⟨-, ⟨hr, -⟩, -⟩
    rw [List.length_eq_zero_iff.mp hrows] at hr
    cases hr
  have hrouted := (processBatch_completed h hrows).routed
  generalize out.routes = routes at hrouted
  unfold route at hrouted
  rcases mark with _ | m
  · obtain rfl := Except.ok.inj hrouted
    refine iff_of_false List.not_mem_nil ?_
    rintro ⟨-, -, t, -, -, m, c, hm, -⟩
    cases hm
  by_cases hprocess : conf.latePolicy = "process"
  · simp only [hprocess, ne_eq, not_true_eq_false, if_false] at hrouted
    obtain rfl := Except.ok.inj hrouted
    refine iff_of_false List.not_mem_nil ?_
    rintro ⟨-, -, t, -, hpolicy, -⟩
    exact hpolicy hprocess
  dsimp only at hrouted
  rw [if_pos hprocess] at hrouted
  obtain ⟨c, hc, hrouted⟩ := bind_eq_ok_iff.mp hrouted
  simp only [late_some_iff hprocess hc, ← mem_late]
  by_cases hnone : ((parseable batch).where3 (isLate c)).count = 0
  · rw [if_neg (not_not.mpr hnone)] at hrouted
    obtain rfl := Except.ok.inj hrouted
    refine iff_of_false List.not_mem_nil ?_
    rintro ⟨-, hr⟩
    rw [List.length_eq_zero_iff.mp hnone] at hr
    cases hr
  · rw [if_pos hnone] at hrouted
    obtain rfl := Except.ok.inj hrouted
    by_cases hdlq : conf.latePolicy = "dlq"
    · simp only [hdlq, true_and, if_true]
    · simp only [hdlq, false_and, iff_false, if_false]
      exact List.not_mem_nil

/-- A driver with a mark that completes a batch with rows has a cutoff. -/
theorem exists_cutoff {m : ℤ} (h : processBatch conf env (some m) batch = .ok out)
    (hrows : batch.count ≠ 0) (hpolicy : conf.latePolicy ≠ "process") :
    ∃ c, cutoffOf conf m = .ok c := by
  obtain ⟨c, hc, -⟩ := route_of_mark hpolicy (processBatch_completed h hrows).routed
  exact ⟨c, hc⟩

/-- Without a mark, and with the policy `process`, nothing is filtered. -/
theorem highWater_of_unfiltered {routes : Routes} (h : route conf mark batch = .ok routes)
    (hunfiltered : ¬∃ m, mark = some m ∧ conf.latePolicy ≠ "process") :
    highWater routes.good = max3 (eventTimes batch) := by
  have hgood : routes.good = parseable batch := by
    rcases mark with _ | m
    · exact (route_of_none h).2
    · have hprocess : conf.latePolicy = "process" := by
        by_contra hpolicy
        exact hunfiltered ⟨m, rfl, hpolicy⟩
      unfold route at h
      simp only [hprocess, ne_eq, not_true_eq_false, if_false] at h
      rw [← Except.ok.inj h]
  rw [hgood]
  rfl

/-- The mark after a batch: the greatest event time advances it, unless that time is late. -/
theorem mark_of_processBatch (h : processBatch conf env mark batch = .ok out) :
    (max3 (eventTimes batch) = none → out.maxEventMs = mark) ∧
      ∀ t, max3 (eventTimes batch) = some t →
        (Late conf mark t → out.maxEventMs = mark) ∧
        (¬Late conf mark t → out.maxEventMs = some (max (mark.getD 0) (highWaterMs t))) := by
  by_cases hrows : batch.count = 0
  · refine ⟨fun _ => (processBatch_empty h hrows).1, ?_⟩
    intro t ht
    rw [eventTimes_of_count_eq_zero hrows] at ht
    cases ht
  have hdone := processBatch_completed h hrows
  rw [hdone.advanced]
  by_cases hfiltered : ∃ m, mark = some m ∧ conf.latePolicy ≠ "process"
  · obtain ⟨m, rfl, hpolicy⟩ := hfiltered
    obtain ⟨c, hc, -⟩ := route_of_mark hpolicy hdone.routed
    have hhigh := highWater_good hc hpolicy hdone.routed
    refine ⟨?_, ?_⟩
    · intro hnone
      have hfalse : ¬∃ t, max3 (eventTimes batch) = some t ∧ t < c := by
        rintro ⟨t, ht, -⟩
        rw [hnone] at ht
        cases ht
      rw [hhigh, if_neg hfalse, hnone]
      rfl
    · intro t ht
      rw [late_some_iff hpolicy hc]
      refine ⟨?_, ?_⟩
      · intro hlt
        rw [hhigh, if_pos ⟨t, ht, hlt⟩]
        rfl
      · intro hlt
        have hfalse : ¬∃ t, max3 (eventTimes batch) = some t ∧ t < c := by
          rintro ⟨t', ht', hlt'⟩
          obtain rfl := Option.some.inj (ht.symm.trans ht')
          exact hlt hlt'
        rw [hhigh, if_neg hfalse, ht]
        rfl
  · have hhigh := highWater_of_unfiltered hdone.routed hfiltered
    rw [hhigh]
    refine ⟨?_, ?_⟩
    · intro hnone
      rw [hnone]
      rfl
    · intro t ht
      refine ⟨?_, fun _ => by rw [ht]; rfl⟩
      rintro ⟨hpolicy, m, c, hm, -⟩
      exact absurd ⟨m, hm, hpolicy⟩ hfiltered

/-- **A mark that is behind stays behind**: the rows late for the higher mark alone do not take the
lower one past it. -/
theorem markLe_of_processBatch {M : Option ℤ} {env' : BatchEnv} {out' : BatchRun}
    (h : processBatch conf env mark batch = .ok out)
    (h' : processBatch conf env' M batch = .ok out') (hle : MarkLe mark M) (hM : MarkNonneg M) :
    MarkLe out.maxEventMs out'.maxEventMs := by
  obtain ⟨hnone, hsome⟩ := mark_of_processBatch h
  obtain ⟨hnone', hsome'⟩ := mark_of_processBatch h'
  rcases hmax : max3 (eventTimes batch) with _ | t
  · rw [hnone hmax, hnone' hmax]
    exact hle
  by_cases hlate' : Late conf M t
  · rw [(hsome' t hmax).1 hlate']
    obtain ⟨hpolicy, K, c, rfl, hc, hlt⟩ := hlate'
    have hK := hM K rfl
    by_cases hlate : Late conf mark t
    · rw [(hsome t hmax).1 hlate]
      exact hle
    · rw [(hsome t hmax).2 hlate]
      intro k hk
      refine ⟨K, rfl, ?_⟩
      rw [← Option.some.inj hk]
      exact max_le (hle.getD_le hM) (highWaterMs_le_of_lt_cutoff hK hc hlt)
  · rw [(hsome' t hmax).2 hlate']
    by_cases hlate : Late conf mark t
    · rw [(hsome t hmax).1 hlate]
      intro k hk
      obtain ⟨K, rfl, hkK⟩ := hle k hk
      exact ⟨_, rfl, le_trans hkK (le_max_left _ _)⟩
    · rw [(hsome t hmax).2 hlate]
      intro k hk
      refine ⟨_, rfl, ?_⟩
      rw [← Option.some.inj hk]
      exact max_le_max_right _ (hle.getD_le hM)

/-- What is late for a mark is late for a higher one. -/
theorem Late.mono {m M : Option ℤ} {t : ℤ} (hlate : Late conf m t) (hle : MarkLe m M)
    (h : processBatch conf env M batch = .ok out) (hrows : batch.count ≠ 0) : Late conf M t := by
  obtain ⟨hpolicy, k, c, rfl, hc, hlt⟩ := hlate
  obtain ⟨K, rfl, hkK⟩ := hle k rfl
  obtain ⟨C, hC⟩ := exists_cutoff h hrows hpolicy
  exact ⟨hpolicy, K, C, rfl, hC, lt_of_lt_of_le hlt (cutoffOf_mono hkK hc hC)⟩

end batch

/-! ## Whole runs -/

/-- The executions a run has completed. -/
structure RunInv (conf : StreamConf) (batches : List Frame) (s : QueryState) : Prop where
  executed : ∀ c ∈ s.completions, ∃ batch env, batches[c.index]? = some batch ∧
    processBatch conf env c.mark batch = .ok c.out
  covered : ∀ i < s.position, ∃ c ∈ s.completions, c.index = i

/-- The invariant holds throughout every run. -/
theorem runInv_of_runs {conf : StreamConf} {batches : List Frame} {crashes : Prop} {s : QueryState}
    (h : Runs conf batches crashes s) : RunInv conf batches s := by
  induction h with
  | start =>
      refine ⟨?_, ?_⟩
      · intro c hc
        cases hc
      · intro i hi
        exact absurd hi (Nat.not_lt_zero i)
  | @complete s batch env out _ hran hbatch hout ih =>
      refine ⟨?_, ?_⟩
      · intro c hc
        rcases List.mem_append.mp hc with hc | hc
        · exact ih.executed c hc
        · obtain rfl := List.mem_singleton.mp hc
          exact ⟨batch, env, hbatch, hout⟩
      · intro i hi
        rcases Nat.lt_succ_iff_lt_or_eq.mp (show i < s.committed + 1 from hi) with hlt | rfl
        · obtain ⟨c, hc, hindex⟩ := ih.covered i (Nat.lt_add_right _ hlt)
          exact ⟨c, List.mem_append_left _ hc, hindex⟩
        · exact ⟨_, List.mem_append_right _ (List.mem_singleton_self _), rfl⟩
  | @commit s _ hran ih =>
      refine ⟨ih.executed, ?_⟩
      intro i hi
      refine ih.covered i ?_
      rw [QueryState.position, hran]
      exact hi
  | @crash s _ _ ih =>
      refine ⟨ih.executed, ?_⟩
      intro i hi
      exact ih.covered i (lt_of_lt_of_le hi (Nat.le_add_right _ _))

section invariant

variable {conf : StreamConf} {batches : List Frame} {s : QueryState} {i : ℕ} {batch : Frame}

/-- What a completion has executed. -/
theorem RunInv.ran (hinv : RunInv conf batches s) {c : Completion} (hc : c ∈ s.completions)
    (hbatch : batches[c.index]? = some batch) :
    ∃ env, processBatch conf env c.mark batch = .ok c.out := by
  obtain ⟨batch', env, hbatch', hout⟩ := hinv.executed c hc
  obtain rfl := Option.some.inj (hbatch.symm.trans hbatch')
  exact ⟨env, hout⟩

/-- A run through all batches has completed each. -/
theorem RunInv.exists_completion (hinv : RunInv conf batches s)
    (hdone : s.committed = batches.length) (hbatch : batches[i]? = some batch) :
    ∃ c ∈ s.completions, c.index = i := by
  have hlt : i < batches.length := (List.getElem?_eq_some_iff.mp hbatch).1
  exact hinv.covered i (lt_of_lt_of_le hlt (hdone ▸ Nat.le_add_right _ _))

/-- **The rows a run has routed as late**: those that some driver found late. -/
theorem RunInv.mem_routedLate_iff (hinv : RunInv conf batches s)
    (hbatch : batches[i]? = some batch) {r : StreamRow} :
    (i, r) ∈ s.routedLate ↔ conf.latePolicy = "dlq" ∧ (r ∈ batch.rows ∧ r.unparseable = false) ∧
      ∃ t, r.event.eventTime = some t ∧ ∃ c ∈ s.completions, c.index = i ∧ Late conf c.mark t := by
  constructor
  · rintro ⟨c, hc, rfl, hr⟩
    obtain ⟨env, hout⟩ := hinv.ran hc hbatch
    obtain ⟨hdlq, hmem, t, ht, hlate⟩ := (mem_lateWrite hout).mp hr
    exact ⟨hdlq, hmem, t, ht, c, hc, rfl, hlate⟩
  · rintro ⟨hdlq, hmem, t, ht, c, hc, rfl, hlate⟩
    obtain ⟨env, hout⟩ := hinv.ran hc hbatch
    exact ⟨c, hc, rfl, (mem_lateWrite hout).mpr ⟨hdlq, hmem, t, ht, hlate⟩⟩

/-- What was routed late is of one of the batches. -/
theorem RunInv.exists_batch (hinv : RunInv conf batches s) {r : StreamRow}
    (h : (i, r) ∈ s.routedLate) : ∃ batch, batches[i]? = some batch := by
  obtain ⟨c, hc, rfl, -⟩ := h
  obtain ⟨batch, env, hbatch, -⟩ := hinv.executed c hc
  exact ⟨batch, hbatch⟩

end invariant

/-- Without crashes the mark is the mark of the batches behind the driver. -/
theorem mark_of_crashFree {conf : StreamConf} {batches : List Frame} {s : QueryState}
    (h : Runs conf batches False s) :
    s.mark = markAfter conf (batches.take s.position) ∧
      ∀ c ∈ s.completions, c.mark = markAfter conf (batches.take c.index) := by
  induction h with
  | start =>
      refine ⟨rfl, ?_⟩
      intro c hc
      cases hc
  | @complete s batch env out _ hran hbatch hout ih =>
      have hpos : s.position = s.committed := by
        rw [QueryState.position, hran]
        rfl
      rw [hpos] at ih
      refine ⟨?_, ?_⟩
      · show out.maxEventMs = markAfter conf (batches.take (s.committed + 1))
        rw [markAfter_take_succ hbatch, ← ih.1]
        exact processBatch_mark hout
      · intro c hc
        rcases List.mem_append.mp hc with hc | hc
        · exact ih.2 c hc
        · obtain rfl := List.mem_singleton.mp hc
          exact ih.1
  | @commit s _ hran ih =>
      refine ⟨?_, ih.2⟩
      have hmark := ih.1
      rw [QueryState.position, hran] at hmark
      exact hmark
  | crash _ hcrash => exact hcrash.elim

/-- One driver completes all batches. -/
def Completes (conf : StreamConf) (batches : List Frame) : Prop :=
  ∀ i batch, batches[i]? = some batch →
    ∃ env out, processBatch conf env (markAfter conf (batches.take i)) batch = .ok out

/-- A run without a crash that has committed every batch completes them. -/
theorem completes_of_crashFree {conf : StreamConf} {batches : List Frame} {s : QueryState}
    (h : Runs conf batches False s) (hdone : s.committed = batches.length) :
    Completes conf batches := by
  intro i batch hbatch
  obtain ⟨c, hc, rfl⟩ := (runInv_of_runs h).exists_completion hdone hbatch
  obtain ⟨env, hout⟩ := (runInv_of_runs h).ran hc hbatch
  rw [(mark_of_crashFree h).2 c hc] at hout
  exact ⟨env, c.out, hout⟩

/-- Without crashes a row is late by the mark of the batches before. -/
theorem mem_routedLate_of_crashFree {conf : StreamConf} {batches : List Frame} {s : QueryState}
    (h : Runs conf batches False s) (hdone : s.committed = batches.length) {i : ℕ} {batch : Frame}
    (hbatch : batches[i]? = some batch) {r : StreamRow} :
    (i, r) ∈ s.routedLate ↔ conf.latePolicy = "dlq" ∧ (r ∈ batch.rows ∧ r.unparseable = false) ∧
      ∃ t, r.event.eventTime = some t ∧ Late conf (markAfter conf (batches.take i)) t := by
  have hmarks := (mark_of_crashFree h).2
  rw [(runInv_of_runs h).mem_routedLate_iff hbatch]
  constructor
  · rintro ⟨hdlq, hmem, t, ht, c, hc, rfl, hlate⟩
    exact ⟨hdlq, hmem, t, ht, hmarks c hc ▸ hlate⟩
  · rintro ⟨hdlq, hmem, t, ht, hlate⟩
    obtain ⟨c, hc, rfl⟩ := (runInv_of_runs h).exists_completion hdone hbatch
    exact ⟨hdlq, hmem, t, ht, c, hc, rfl, (hmarks c hc).symm ▸ hlate⟩

/-- **The mark only falls behind.** -/
theorem markLe_of_runs {conf : StreamConf} {batches : List Frame} {crashes : Prop} {s : QueryState}
    (hfree : Completes conf batches) (h : Runs conf batches crashes s) :
    MarkLe s.mark (markAfter conf (batches.take s.position)) ∧
      ∀ c ∈ s.completions, MarkLe c.mark (markAfter conf (batches.take c.index)) := by
  induction h with
  | start =>
      refine ⟨markLe_none _, ?_⟩
      intro c hc
      cases hc
  | @complete s batch env out _ hran hbatch hout ih =>
      have hpos : s.position = s.committed := by
        rw [QueryState.position, hran]
        rfl
      rw [hpos] at ih
      refine ⟨?_, ?_⟩
      · show MarkLe out.maxEventMs (markAfter conf (batches.take (s.committed + 1)))
        obtain ⟨env', out', hout'⟩ := hfree s.committed batch hbatch
        rw [markAfter_take_succ hbatch, ← processBatch_mark hout']
        exact markLe_of_processBatch hout hout' ih.1 (markNonneg_markAfter conf _)
      · intro c hc
        rcases List.mem_append.mp hc with hc | hc
        · exact ih.2 c hc
        · obtain rfl := List.mem_singleton.mp hc
          exact ih.1
  | @commit s _ hran ih =>
      refine ⟨?_, ih.2⟩
      have hmark := ih.1
      rw [QueryState.position, hran] at hmark
      exact hmark
  | crash _ _ ih => exact ⟨markLe_none _, ih.2⟩

/-- Among the completions of a batch one had the highest mark. -/
theorem exists_max_mark {l : List Completion} (h : l ≠ []) :
    ∃ c ∈ l, ∀ c' ∈ l, MarkLe c'.mark c.mark := by
  induction l with
  | nil => exact absurd rfl h
  | cons a l ih =>
      rcases eq_or_ne l [] with rfl | hne
      · refine ⟨a, List.mem_cons_self, ?_⟩
        intro c' hc'
        obtain rfl := List.mem_singleton.mp hc'
        exact MarkLe.refl _
      obtain ⟨c, hc, hmax⟩ := ih hne
      rcases markLe_total a.mark c.mark with hle | hle
      · refine ⟨c, List.mem_cons_of_mem _ hc, ?_⟩
        intro c' hc'
        rcases List.mem_cons.mp hc' with rfl | hc'
        · exact hle
        · exact hmax c' hc'
      · refine ⟨a, List.mem_cons_self, ?_⟩
        intro c' hc'
        rcases List.mem_cons.mp hc' with rfl | hc'
        · exact MarkLe.refl _
        · exact (hmax c' hc').trans hle

/-- Of the drivers that completed a batch, one had the highest mark. -/
theorem RunInv.exists_highest {conf : StreamConf} {batches : List Frame} {s : QueryState}
    (hinv : RunInv conf batches s) (hdone : s.committed = batches.length) {i : ℕ} {batch : Frame}
    (hbatch : batches[i]? = some batch) : ∃ c ∈ s.completions, c.index = i ∧
      ∀ c' ∈ s.completions, c'.index = i → MarkLe c'.mark c.mark := by
  have hne : s.completions.filter (fun c => c.index = i) ≠ [] := by
    obtain ⟨c, hc, hindex⟩ := hinv.exists_completion hdone hbatch
    exact List.ne_nil_of_mem (List.mem_filter.mpr ⟨hc, decide_eq_true hindex⟩)
  obtain ⟨c, hc, hmax⟩ := exists_max_mark hne
  obtain ⟨hc, hindex⟩ := List.mem_filter.mp hc
  refine ⟨c, hc, of_decide_eq_true hindex, ?_⟩
  intro c' hc' hindex'
  exact hmax c' (List.mem_filter.mpr ⟨hc', decide_eq_true hindex'⟩)

/-- A driver with the first mark finds all the rows of the batch late that one with the second
does. -/
def FindsLate (conf : StreamConf) (mark M : Option ℤ) (batch : Frame) : Prop :=
  ∀ r ∈ batch.rows, r.unparseable = false → ∀ t, r.event.eventTime = some t →
    Late conf M t → Late conf mark t

/-- **A restart changes lateness unless the late rows of each batch were late for a driver that
completed it.** -/
theorem routedLate_eq_iff {conf : StreamConf} {batches : List Frame} {s s' : QueryState}
    (h : Runs conf batches True s) (hdone : s.committed = batches.length)
    (hfree : Runs conf batches False s') (hdone' : s'.committed = batches.length) :
    s.routedLate = s'.routedLate ↔
      (conf.latePolicy = "dlq" → ∀ i batch, batches[i]? = some batch →
        ∃ c ∈ s.completions, c.index = i ∧
          FindsLate conf c.mark (markAfter conf (batches.take i)) batch) := by
  have hinv := runInv_of_runs h
  have hcompletes := completes_of_crashFree hfree hdone'
  have hbehind := (markLe_of_runs hcompletes h).2
  have hcount : ∀ {batch : Frame} {r : StreamRow}, r ∈ batch.rows → batch.count ≠ 0 :=
    fun hr => Nat.ne_of_gt (List.length_pos_of_mem hr)
  constructor
  · intro heq hdlq i batch hbatch
    -- of the drivers that completed the batch, the one with the highest mark finds the most
    obtain ⟨c, hc, rfl, hmax⟩ := hinv.exists_highest hdone hbatch
    refine ⟨c, hc, rfl, ?_⟩
    intro r hr hparse t ht hlate
    -- the row is routed without crashes, so some driver has routed it
    have hmem : (c.index, r) ∈ s.routedLate := by
      rw [heq, mem_routedLate_of_crashFree hfree hdone' hbatch]
      exact ⟨hdlq, ⟨hr, hparse⟩, t, ht, hlate⟩
    obtain ⟨-, -, t', ht', d, hd, hindex, hlated⟩ := (hinv.mem_routedLate_iff hbatch).mp hmem
    obtain rfl := Option.some.inj (ht.symm.trans ht')
    obtain ⟨env, hout⟩ := hinv.ran hc hbatch
    exact hlated.mono (hmax d hd hindex) hout (hcount hr)
  · intro hfinds
    ext ⟨i, r⟩
    constructor
    · intro hr
      -- a row that is late after a restart is late without one
      obtain ⟨batch, hbatch⟩ := hinv.exists_batch hr
      rw [mem_routedLate_of_crashFree hfree hdone' hbatch]
      obtain ⟨hdlq, hmem, t, ht, c, hc, rfl, hlate⟩ := (hinv.mem_routedLate_iff hbatch).mp hr
      obtain ⟨env, out, hout⟩ := hcompletes c.index batch hbatch
      exact ⟨hdlq, hmem, t, ht, hlate.mono (hbehind c hc) hout (hcount hmem.1)⟩
    · intro hr
      obtain ⟨batch, hbatch⟩ := (runInv_of_runs hfree).exists_batch hr
      rw [hinv.mem_routedLate_iff hbatch]
      obtain ⟨hdlq, hmem, t, ht, hlate⟩ :=
        (mem_routedLate_of_crashFree hfree hdone' hbatch).mp hr
      obtain ⟨c, hc, hindex, hfind⟩ := hfinds hdlq i batch hbatch
      exact ⟨hdlq, hmem, t, ht, c, hc, hindex, hfind r hmem.1 hmem.2 t ht hlate⟩

/-! ## A batch of November 2023 and a row of 1970 -/

/-- The first batch moves the mark to November 2023, the second is a row of 1970. -/
def sampleBatches : List Frame := [[[rowAt (1700000000000 * 1000)]], [[rowAt 0]]]

/-- The first batch of the sample sets the mark. -/
theorem mark_first {out : BatchRun}
    (h : processBatch dlqConf quietEnv none [[rowAt (1700000000000 * 1000)]] = .ok out) :
    out.maxEventMs = some 1700000000000 := by
  have hexact : ExactMillis 1700000000000 :=
    exactMillis_of_window (e := 30) (by norm_num) (by norm_num) (by norm_num)
  rw [ExactMillis, ← highWaterMs_mul] at hexact
  have hdone := processBatch_completed h one_ne_zero
  rw [hdone.advanced, (route_of_none hdone.routed).2, highWater_rowAt, advance, hexact]
  rfl

/-- One driver for both batches, or a new one for the second. -/
theorem exists_sampleRuns :
    ∃ s s', Runs dlqConf sampleBatches True s ∧ s.committed = sampleBatches.length ∧
      Runs dlqConf sampleBatches False s' ∧ s'.committed = sampleBatches.length ∧
      (1, rowAt 0) ∉ s.routedLate ∧ (1, rowAt 0) ∈ s'.routedLate := by
  obtain ⟨out₁, hout₁⟩ := exists_first (1700000000000 * 1000) (by decide) (by decide)
  obtain ⟨out₂, hout₂, -⟩ := exists_late 1700000000000 0 (by norm_num) (by norm_num)
  obtain ⟨out₃, hout₃⟩ := exists_first 0 (by decide) (by decide)
  have hmark := mark_first hout₁
  have hfirst : ∀ crashes, Runs dlqConf sampleBatches crashes
      ⟨1, some 1700000000000, false, [⟨0, none, out₁⟩]⟩ := by
    intro crashes
    rw [← hmark]
    exact Runs.commit (Runs.complete Runs.start rfl rfl hout₁) rfl
  have hcrash := (hfirst True).crash trivial
  have hsecond := Runs.complete (hfirst False) rfl rfl hout₂
  have hagain := Runs.complete hcrash rfl rfl hout₃
  refine ⟨_, _, hagain.commit rfl, rfl, hsecond.commit rfl, rfl, ?_, ?_⟩
  · rintro ⟨c, hc, hindex, hr⟩
    rcases List.mem_pair.mp hc with rfl | rfl
    · cases hindex
    · obtain ⟨-, -, t, -, -, m, cutoff, hm, -⟩ := (mem_lateWrite hout₃).mp hr
      cases hm
  · refine ⟨_, List.mem_append_right _ (List.mem_singleton_self _), rfl, ?_⟩
    refine (mem_lateWrite hout₂).mpr ⟨rfl, ⟨List.mem_singleton_self _, rfl⟩, 0, rfl, ?_⟩
    refine ⟨by decide, 1700000000000, _, rfl, cutoffOf_eq (by norm_num [dlqConf]), ?_⟩
    norm_num [dlqConf]

/-- The general result at two batches of November 2023. -/
theorem routedLate_eq_iff_2023 :
    ∃ s s', Runs dlqConf sampleBatches True s ∧ Runs dlqConf sampleBatches False s' ∧
      (s.routedLate = s'.routedLate ↔
        (dlqConf.latePolicy = "dlq" → ∀ i batch, sampleBatches[i]? = some batch →
          ∃ c ∈ s.completions, c.index = i ∧
            FindsLate dlqConf c.mark (markAfter dlqConf (sampleBatches.take i)) batch)) := by
  obtain ⟨s, s', h, hdone, hfree, hdone', -⟩ := exists_sampleRuns
  exact ⟨s, s', h, hfree, routedLate_eq_iff h hdone hfree hdone'⟩

/-- A crash between the two batches: the row of 1970 is late for one driver, and on time for two. -/
theorem restart_forgets_lateness :
    ∃ s s', Runs dlqConf sampleBatches True s ∧ s.committed = sampleBatches.length ∧
      Runs dlqConf sampleBatches False s' ∧ s'.committed = sampleBatches.length ∧
      s.routedLate ≠ s'.routedLate := by
  obtain ⟨s, s', h, hdone, hfree, hdone', hnot, hmem⟩ := exists_sampleRuns
  refine ⟨s, s', h, hdone, hfree, hdone', ?_⟩
  intro heq
  rw [heq] at hnot
  exact hnot hmem

end TripPipeline.Streaming
