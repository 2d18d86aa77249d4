import TripPipeline.Streaming.Recompute

/-!
# Lateness against the true high-water mark

The driver keeps one number, `_max_event_ms`. It starts as `None`, is updated from the rows that
survive the lateness filter, and passes through doubles twice: when an event time becomes the mark
and when the mark becomes a cutoff. `trueMax` is what it stands for, the greatest event time of all
parseable rows of the batches so far.

* **Runs.** `Reaches conf P done mark`: the driver has processed the batches `done`, each with `P`
  of the mark before it, and holds `mark`.
* **The mark is the true maximum** (`mark_eq_trueMax`), and **lateness is judged against it**
  (`lateness_of_faithful`), in every run whose steps are `Faithful`: the first event times are not
  before 1970, and the doubles are exact where the driver uses them.
* `exactMillis_of_window`, `exactSeconds_of_lt`: from November 2004 to January 2038 they are.
* `negative_mark_misjudges`: a first batch before 1970 leaves the mark 0, and the next batch is
  compared with 1970.
-/

namespace TripPipeline.Streaming

open TripPipeline.Common TripPipeline.Lib

/-! ## The two conversions -/

/-- `k` milliseconds, as seconds in a double, times 1000, truncated, are `k`. -/
def ExactMillis (k : ℤ) : Prop := trunc (fl (fl (k / 1000) * 1000)) = k

/-- `fromtimestamp(c / 1000.0)` is `c` milliseconds after the epoch. -/
def ExactSeconds (c : ℤ) : Prop := secondsToMicros (fl (fl c / 1000)) = c * 1000

/-- From November 2004 to January 2038 (`e = 30`), and in other such windows, milliseconds survive
the conversion. -/
theorem exactMillis_of_window {k : ℤ} {e : ℕ} (he : e ≤ 42) (h0 : 1024 * 2 ^ e < |k|)
    (h1 : |k| < 1000 * 2 ^ (e + 1)) : ExactMillis k :=
  trunc_fl_thousand he h0 h1

/-- Whole seconds survive the conversion. -/
theorem exactMillis_of_seconds {s : ℤ} (h : |s * 1000| < 2 ^ 53) : ExactMillis (s * 1000) := by
  have hs : |s| < 2 ^ 53 := by
    rw [abs_mul] at h
    have := abs_nonneg s
    norm_num at h ⊢
    linarith
  have hdiv : ((s * 1000 : ℤ) : ℚ) / 1000 = s := by
    push_cast
    ring
  have hmul : (s : ℚ) * 1000 = ((s * 1000 : ℤ) : ℚ) := by push_cast; ring
  rw [ExactMillis, hdiv, fl_intCast hs, hmul, fl_intCast h, trunc_intCast]

/-- Between 1834 and 2106 the cutoff is exact. -/
theorem exactSeconds_of_lt {c : ℤ} (h : |c| < 1000 * 2 ^ 32) : ExactSeconds c := by
  rw [ExactSeconds, fl_intCast (lt_trans h (by norm_num))]
  exact secondsToMicros_thousandth h

/-- The mark of an event time of whole milliseconds. -/
theorem highWaterMs_mul (k : ℤ) : highWaterMs (k * 1000) = trunc (fl (fl (k / 1000) * 1000)) := by
  have hdiv : ((k * 1000 : ℤ) : ℚ) / 1000000 = k / 1000 := by
    push_cast
    ring
  rw [highWaterMs, hdiv]

/-- What is below the next integer is cut to at most this one. -/
theorem trunc_le_of_lt {x : ℚ} {n : ℤ} (hn : 0 ≤ n) (hx : x < n + 1) : trunc x ≤ n := by
  unfold trunc
  split_ifs with h0
  · exact Int.lt_add_one_iff.mp (Int.floor_lt.mpr (by exact_mod_cast hx))
  · rw [Int.ceil_le]
    have : (0 : ℚ) ≤ n := by exact_mod_cast hn
    linarith

/-- The conversion never overshoots a mark that is not before 1970. -/
theorem highWaterMs_le {k m : ℤ} (hk : k < 2 ^ 50) (hkm : k ≤ m) (hm : 0 ≤ m) :
    highWaterMs (k * 1000) ≤ m := by
  rw [highWaterMs_mul]
  refine trunc_le_of_lt hm ?_
  have hmq : (0 : ℚ) ≤ m := by exact_mod_cast hm
  have hkmq : (k : ℚ) ≤ m := by exact_mod_cast hkm
  have h1 := (abs_le.mp (abs_fl_sub_le ((k : ℚ) / 1000))).2
  have h2 := (abs_le.mp (abs_fl_sub_le (fl ((k : ℚ) / 1000) * 1000))).2
  rcases le_or_gt k 0 with hneg | hpos
  · -- both roundings keep the sign
    have hkq : (k : ℚ) ≤ 0 := by exact_mod_cast hneg
    have hx : fl ((k : ℚ) / 1000) ≤ 0 := by
      rw [abs_of_nonpos (by linarith)] at h1
      linarith
    have hy : fl (fl ((k : ℚ) / 1000) * 1000) ≤ 0 := by
      rw [abs_of_nonpos (by linarith)] at h2
      linarith
    linarith
  · have hkq : (0 : ℚ) < k := by exact_mod_cast hpos
    have hkb : (k : ℚ) < 2 ^ 50 := by exact_mod_cast hk
    have h1' := (abs_le.mp (abs_fl_sub_le ((k : ℚ) / 1000))).1
    rw [abs_of_pos (by linarith)] at h1 h1'
    have hx : 0 < fl ((k : ℚ) / 1000) := by linarith
    rw [abs_of_pos (by linarith)] at h2
    linarith

/-! ## Runs -/

/-- The driver has processed the batches `done`, with `P` of the mark and the batch in every step,
and holds `mark`. -/
inductive Reaches (conf : StreamConf) (P : Option ℤ → Frame → Prop) :
    List Frame → Option ℤ → Prop
  | start : Reaches conf P [] none
  | step {done mark env batch out} : Reaches conf P done mark → P mark batch →
      processBatch conf env mark batch = .ok out → Reaches conf P (done ++ [batch]) out.maxEventMs

/-- The event times of the parseable rows of a batch. -/
def eventTimes (batch : Frame) : List (Option ℤ) :=
  (parseable batch).rows.map fun r => r.event.eventTime

/-- The greatest event time over all parseable rows, late ones included. -/
def trueMax (done : List Frame) : Option ℤ := max3 (done.flatMap eventTimes)

/-- All event times are whole milliseconds. -/
def WholeMs (batch : Frame) : Prop := ∀ t, some t ∈ eventTimes batch → 1000 ∣ t

/-- The driver's arithmetic is exact in this step. -/
structure Faithful (conf : StreamConf) (mark : Option ℤ) (batch : Frame) : Prop where
  /-- The mark in use gives the cutoff it stands for. -/
  cutoff : ∀ m, mark = some m → ExactSeconds (m - conf.allowedLatenessSec * 1000)
  /-- The first mark is not before 1970. -/
  start : mark = none → ∀ t, max3 (eventTimes batch) = some t → 0 ≤ t
  /-- A new greatest event time becomes the mark it stands for. -/
  exact : ∀ t, max3 (eventTimes batch) = some t → (∀ m, mark = some m → m * 1000 < t) →
    ExactMillis (t / 1000)

/-- The event times of a batch are those of its rows that parse. -/
theorem mem_eventTimes {batch : Frame} {t : Option ℤ} :
    t ∈ eventTimes batch ↔
      ∃ r ∈ batch.rows, r.unparseable = false ∧ r.event.eventTime = t := by
  unfold eventTimes
  simp only [List.mem_map, mem_parseable, and_assoc]

/-- One more batch adds its event times. -/
theorem mem_flatMap_eventTimes_append {done : List Frame} {batch : Frame} {t : Option ℤ} :
    t ∈ (done ++ [batch]).flatMap eventTimes ↔
      t ∈ done.flatMap eventTimes ∨ t ∈ eventTimes batch := by
  rw [List.flatMap_append, List.mem_append, List.flatMap_singleton]

/-- The true maximum after one more batch. -/
theorem trueMax_append (done : List Frame) (batch : Frame) :
    trueMax (done ++ [batch]) =
      match trueMax done, max3 (eventTimes batch) with
      | none, t => t
      | some M, none => some M
      | some M, some t => some (max M t) := by
  unfold trueMax
  cases hdone : max3 (done.flatMap eventTimes) with
  | none =>
      have hnone := max3_eq_none_iff.mp hdone
      cases hbatch : max3 (eventTimes batch) with
      | none =>
          have hnone' := max3_eq_none_iff.mp hbatch
          refine max3_eq_none_iff.mpr fun t ht => ?_
          rcases mem_flatMap_eventTimes_append.mp ht with h | h
          · exact hnone t h
          · exact hnone' t h
      | some t =>
          obtain ⟨hmem, hle⟩ := max3_eq_some_iff.mp hbatch
          refine max3_eq_some_iff.mpr ⟨mem_flatMap_eventTimes_append.mpr (Or.inr hmem), ?_⟩
          intro a ha
          rcases mem_flatMap_eventTimes_append.mp ha with h | h
          · exact absurd h (hnone a)
          · exact hle a h
  | some M =>
      obtain ⟨hmem, hle⟩ := max3_eq_some_iff.mp hdone
      cases hbatch : max3 (eventTimes batch) with
      | none =>
          have hnone := max3_eq_none_iff.mp hbatch
          refine max3_eq_some_iff.mpr ⟨mem_flatMap_eventTimes_append.mpr (Or.inl hmem), ?_⟩
          intro a ha
          rcases mem_flatMap_eventTimes_append.mp ha with h | h
          · exact hle a h
          · exact absurd h (hnone a)
      | some t =>
          obtain ⟨hmem', hle'⟩ := max3_eq_some_iff.mp hbatch
          refine max3_eq_some_iff.mpr ⟨?_, ?_⟩
          · rcases max_choice M t with h | h
            · rw [h]
              exact mem_flatMap_eventTimes_append.mpr (Or.inl hmem)
            · rw [h]
              exact mem_flatMap_eventTimes_append.mpr (Or.inr hmem')
          · intro a ha
            rcases mem_flatMap_eventTimes_append.mp ha with h | h
            · exact le_max_of_le_left (hle a h)
            · exact le_max_of_le_right (hle' a h)

/-! ## One step -/

/-- The driver's mark stands for the true maximum. -/
structure MarkInv (done : List Frame) (mark : Option ℤ) : Prop where
  eq : trueMax done = mark.map (· * 1000)
  nonneg : ∀ m, mark = some m → 0 ≤ m

/-- The cutoff is exact when its seconds are. -/
theorem cutoffOf_of_exact {conf : StreamConf} {m c : ℤ}
    (h : ExactSeconds (m - conf.allowedLatenessSec * 1000)) (hc : cutoffOf conf m = .ok c) :
    c = (m - conf.allowedLatenessSec * 1000) * 1000 := by
  rw [cutoffOf, fromTimestamp, h, checkRange] at hc
  split_ifs at hc
  exact (Except.ok.inj hc).symm

/-- With a mark and a policy that is not `process`, the rows before the cutoff are late; the rows
handed on are the others, or all of them when there is no late row. -/
theorem route_of_mark {conf : StreamConf} {m : ℤ} {batch : Frame} {routes : Routes}
    (hpolicy : conf.latePolicy ≠ "process") (h : route conf (some m) batch = .ok routes) :
    ∃ c, cutoffOf conf m = .ok c ∧ routes.late = (parseable batch).where3 (isLate c) ∧
      ((routes.late.rows = [] ∧ routes.good = parseable batch) ∨
        (routes.late.rows ≠ [] ∧ routes.good = (parseable batch).where3 (isOnTime c))) := by
  unfold route at h
  dsimp only at h
  rw [if_pos hpolicy] at h
  obtain ⟨c, hc, h⟩ := bind_eq_ok_iff.mp h
  by_cases hnone : ((parseable batch).where3 (isLate c)).count = 0
  · rw [if_neg (not_not.mpr hnone)] at h
    obtain rfl := Except.ok.inj h
    exact ⟨c, hc, rfl, Or.inl ⟨List.length_eq_zero_iff.mp hnone, rfl⟩⟩
  · rw [if_pos hnone] at h
    obtain rfl := Except.ok.inj h
    exact ⟨c, hc, rfl, Or.inr ⟨fun hnil => hnone (List.length_eq_zero_iff.mpr hnil), rfl⟩⟩

/-- Without a mark no row is late. -/
theorem route_of_none {conf : StreamConf} {batch : Frame} {routes : Routes}
    (h : route conf none batch = .ok routes) :
    routes.late = [] ∧ routes.good = parseable batch := by
  obtain rfl := Except.ok.inj h
  exact ⟨rfl, rfl⟩

/-- The rows handed on are parseable rows of the batch. -/
theorem good_subset {conf : StreamConf} {mark : Option ℤ} {batch : Frame} {routes : Routes}
    (hpolicy : conf.latePolicy ≠ "process") (h : route conf mark batch = .ok routes)
    {r : StreamRow} (hr : r ∈ routes.good.rows) : r ∈ (parseable batch).rows := by
  rcases mark with _ | m
  · rw [(route_of_none h).2] at hr
    exact hr
  · obtain ⟨c, -, -, ⟨-, hgood⟩ | ⟨-, hgood⟩⟩ := route_of_mark hpolicy h
    · rw [hgood] at hr
      exact hr
    · rw [hgood, Frame.rows_where3] at hr
      exact (mem_filter3.mp hr).1

/-- The late rows parse and have a time before the cutoff. -/
theorem mem_late {c : ℤ} {batch : Frame} {r : StreamRow} :
    r ∈ ((parseable batch).where3 (isLate c)).rows ↔
      (r ∈ batch.rows ∧ r.unparseable = false) ∧ ∃ t, r.event.eventTime = some t ∧ t < c := by
  rw [Frame.rows_where3, mem_filter3, mem_parseable, isLate_eq_true_iff]

/-- The rows on time parse and have a time from the cutoff on. -/
theorem mem_onTime {c : ℤ} {batch : Frame} {r : StreamRow} :
    r ∈ ((parseable batch).where3 (isOnTime c)).rows ↔
      (r ∈ batch.rows ∧ r.unparseable = false) ∧ ∃ t, r.event.eventTime = some t ∧ c ≤ t := by
  rw [Frame.rows_where3, mem_filter3, mem_parseable, isOnTime]
  refine and_congr_right fun _ => ?_
  unfold ge3
  cases r.event.eventTime <;> simp

/-- The rows handed on have the greatest event time of the batch, or none. -/
theorem highWater_good {conf : StreamConf} {m c : ℤ} {batch : Frame} {routes : Routes}
    (hc : cutoffOf conf m = .ok c) (hpolicy : conf.latePolicy ≠ "process")
    (h : route conf (some m) batch = .ok routes) :
    highWater routes.good =
      if ∃ t, max3 (eventTimes batch) = some t ∧ t < c then none
      else max3 (eventTimes batch) := by
  obtain ⟨c', hc', hlate, hgood⟩ := route_of_mark hpolicy h
  obtain rfl : c = c' := Except.ok.inj (hc.symm.trans hc')
  have htimes : ∀ t, some t ∈ eventTimes batch ↔
      ∃ r, (r ∈ batch.rows ∧ r.unparseable = false) ∧ r.event.eventTime = some t := by
    intro t
    rw [mem_eventTimes]
    simp only [and_assoc]
  rcases hgood with ⟨hnil, hgood⟩ | ⟨hsome, hgood⟩
  · -- no late row: nothing was filtered
    have hfalse : ¬∃ t, max3 (eventTimes batch) = some t ∧ t < c := by
      rintro ⟨t, ht, hlt⟩
      obtain ⟨r, hr, hrt⟩ := (htimes t).mp (max3_eq_some_iff.mp ht).1
      have hmem := mem_late.mpr ⟨hr, t, hrt, hlt⟩
      rw [← hlate, hnil] at hmem
      cases hmem
    rw [if_neg hfalse, hgood]
    rfl
  · have hmem : ∀ t, some t ∈ routes.good.rows.map (fun r => r.event.eventTime) ↔
        some t ∈ eventTimes batch ∧ c ≤ t := by
      intro t
      rw [hgood, htimes, List.mem_map]
      constructor
      · rintro ⟨r, hr, hrt⟩
        obtain ⟨hr, t', ht', hle⟩ := mem_onTime.mp hr
        obtain rfl := Option.some.inj (ht'.symm.trans hrt)
        exact ⟨⟨r, hr, hrt⟩, hle⟩
      · rintro ⟨⟨r, hr, hrt⟩, hle⟩
        exact ⟨r, mem_onTime.mpr ⟨hr, t, hrt, hle⟩, hrt⟩
    unfold highWater
    split_ifs with hall
    · obtain ⟨t, ht, hlt⟩ := hall
      refine max3_eq_none_iff.mpr fun a ha => ?_
      obtain ⟨ha, hle⟩ := (hmem a).mp ha
      have := (max3_eq_some_iff.mp ht).2 a ha
      omega
    · cases hmax : max3 (eventTimes batch) with
      | none =>
          refine max3_eq_none_iff.mpr fun a ha => ?_
          exact max3_eq_none_iff.mp hmax a ((hmem a).mp ha).1
      | some t =>
          obtain ⟨ht, hle⟩ := max3_eq_some_iff.mp hmax
          have hct : c ≤ t := by
            by_contra hlt
            exact hall ⟨t, hmax, not_le.mp hlt⟩
          exact max3_eq_some_iff.mpr ⟨(hmem t).mpr ⟨ht, hct⟩,
            fun a ha => hle a ((hmem a).mp ha).1⟩

/-- A time that becomes a Python datetime is at most the last one. -/
theorem le_datetimeMax_of_toPython {r : StreamRow} {t : ℤ} (h : toPython r = .ok ())
    (ht : r.event.eventTime = some t) : t ≤ datetimeMax := by
  obtain ⟨_, -, h⟩ := bind_eq_ok_iff.mp h
  obtain ⟨t', ht', -⟩ := bind_eq_ok_iff.mp h
  rw [ht] at ht'
  obtain ⟨us, hus, -⟩ := bind_eq_ok_iff.mp ht'
  unfold checkRange at hus
  split_ifs at hus with hrange
  exact hrange.2

/-- A batch without rows has no event times. -/
theorem eventTimes_of_count_eq_zero {batch : Frame} (h : batch.count = 0) :
    max3 (eventTimes batch) = none := by
  refine max3_eq_none_iff.mpr fun t ht => ?_
  obtain ⟨r, hr, -⟩ := mem_eventTimes.mp ht
  rw [List.length_eq_zero_iff.mp h] at hr
  cases hr

/-- The greatest event time handed on is in the range of `datetime`. -/
theorem Completed.highWater_le {conf : StreamConf} {env : BatchEnv} {mark : Option ℤ}
    {batch : Frame} {out : BatchRun} (h : Completed conf env mark batch out) {t : ℤ}
    (ht : highWater out.routes.good = some t) : t ≤ datetimeMax := by
  obtain ⟨r, hr, hrt⟩ := List.mem_map.mp (max3_eq_some_iff.mp ht).1
  exact le_datetimeMax_of_toPython (h.inRange r hr) hrt

/-- The first mark. -/
theorem advance_first {conf : StreamConf} {batch : Frame} {k : ℤ}
    (hfaithful : Faithful conf none batch) (hmax : max3 (eventTimes batch) = some (k * 1000)) :
    0 ≤ k ∧ advance none (some (k * 1000)) = some k := by
  have hk : 0 ≤ k * 1000 := hfaithful.start rfl _ hmax
  have hnew : ∀ m, none = some m → m * 1000 < k * 1000 := by
    intro m hm
    cases hm
  have hexact := hfaithful.exact _ hmax hnew
  rw [Int.mul_ediv_cancel k (by norm_num), ExactMillis, ← highWaterMs_mul] at hexact
  refine ⟨by omega, ?_⟩
  rw [advance, hexact, Option.getD_none, max_eq_right (by omega)]

/-- A later mark: the greater of the mark and the greatest event time of the batch, late rows
included. -/
theorem advance_next {conf : StreamConf} {env : BatchEnv} {batch : Frame} {out : BatchRun}
    {j k : ℤ} (hpolicy : conf.latePolicy ≠ "process") (hj : 0 ≤ j)
    (hfaithful : Faithful conf (some j) batch) (h : Completed conf env (some j) batch out)
    (hmax : max3 (eventTimes batch) = some (k * 1000)) :
    advance (some j) (highWater out.routes.good) = some (max j k) := by
  obtain ⟨c, hc, -⟩ := route_of_mark hpolicy h.routed
  have hcut := cutoffOf_of_exact (hfaithful.cutoff j rfl) hc
  have hhigh := highWater_good hc hpolicy h.routed
  by_cases hlate : k * 1000 < c
  · -- the whole batch is late, so older than the mark
    have hle : k ≤ j := by omega
    rw [hhigh, if_pos ⟨_, hmax, hlate⟩, advance, max_eq_left hle]
  · have hsome : highWater out.routes.good = some (k * 1000) := by
      rw [hhigh, if_neg, hmax]
      rintro ⟨t, ht, hlt⟩
      rw [hmax] at ht
      obtain rfl := Option.some.inj ht
      exact hlate hlt
    rw [hsome, advance, Option.getD_some]
    refine congrArg some ?_
    rcases le_or_gt k j with hle | hgt
    · -- not a new maximum: the conversion does not overshoot
      have hrange := h.highWater_le hsome
      have hk : k < 2 ^ 50 := by
        unfold datetimeMax at hrange
        omega
      rw [max_eq_left (highWaterMs_le hk hle hj), max_eq_left hle]
    · have hnew : ∀ m, some j = some m → m * 1000 < k * 1000 := by
        intro m hm
        obtain rfl := Option.some.inj hm
        omega
      have hexact := hfaithful.exact _ hmax hnew
      rw [Int.mul_ediv_cancel k (by norm_num), ExactMillis, ← highWaterMs_mul] at hexact
      rw [hexact]

/-- Without event times the mark stays. -/
theorem advance_of_no_times {conf : StreamConf} {env : BatchEnv} {mark : Option ℤ} {batch : Frame}
    {out : BatchRun} (hpolicy : conf.latePolicy ≠ "process")
    (h : Completed conf env mark batch out) (hnone : max3 (eventTimes batch) = none) :
    advance mark (highWater out.routes.good) = mark := by
  have hhigh : highWater out.routes.good = none := by
    refine max3_eq_none_iff.mpr fun t ht => max3_eq_none_iff.mp hnone t ?_
    obtain ⟨r, hr, hrt⟩ := List.mem_map.mp ht
    obtain ⟨hmem, hparse⟩ := mem_parseable.mp (good_subset hpolicy h.routed hr)
    exact mem_eventTimes.mpr ⟨r, hmem, hparse, hrt⟩
  rw [hhigh, advance]

/-- **One step keeps the mark true.** -/
theorem markInv_step {conf : StreamConf} {env : BatchEnv} {done : List Frame} {mark : Option ℤ}
    {batch : Frame} {out : BatchRun} (hpolicy : conf.latePolicy ≠ "process")
    (hinv : MarkInv done mark) (hwhole : WholeMs batch) (hfaithful : Faithful conf mark batch)
    (h : processBatch conf env mark batch = .ok out) :
    MarkInv (done ++ [batch]) out.maxEventMs := by
  have happend := trueMax_append done batch
  rw [hinv.eq] at happend
  cases hmax : max3 (eventTimes batch) with
  | none =>
      have hmark : out.maxEventMs = mark := by
        by_cases hrows : batch.count = 0
        · exact (processBatch_empty h hrows).1
        · have hdone := processBatch_completed h hrows
          exact hdone.advanced.trans (advance_of_no_times hpolicy hdone hmax)
      rw [hmax] at happend
      rw [hmark]
      refine ⟨?_, hinv.nonneg⟩
      rw [happend]
      cases mark <;> rfl
  | some t =>
      have hrows : batch.count ≠ 0 := by
        intro hzero
        rw [eventTimes_of_count_eq_zero hzero] at hmax
        cases hmax
      have hdone := processBatch_completed h hrows
      obtain ⟨k, rfl⟩ := hwhole t (max3_eq_some_iff.mp hmax).1
      rw [hmax] at happend
      rw [mul_comm] at hmax happend
      rw [hdone.advanced]
      cases mark with
      | none =>
          obtain ⟨hk, hadv⟩ := advance_first hfaithful hmax
          have hgood := (route_of_none hdone.routed).2
          have hhigh : highWater out.routes.good = some (k * 1000) := by
            rw [hgood]
            exact hmax
          rw [hhigh, hadv]
          refine ⟨happend, ?_⟩
          intro m hm
          obtain rfl := Option.some.inj hm
          exact hk
      | some j =>
          have hj := hinv.nonneg j rfl
          rw [advance_next hpolicy hj hfaithful hdone hmax]
          refine ⟨?_, ?_⟩
          · rw [happend]
            show some (max (j * 1000) (k * 1000)) = some (max j k * 1000)
            exact congrArg some (by omega)
          · intro m hm
            obtain rfl := Option.some.inj hm
            exact le_max_of_le_left hj

/-! ## Whole runs -/

/-- What is asked of every step of a run. -/
def FaithfulStep (conf : StreamConf) (mark : Option ℤ) (batch : Frame) : Prop :=
  WholeMs batch ∧ Faithful conf mark batch

/-- **The mark is the true maximum**, in every run of faithful steps. -/
theorem mark_eq_trueMax {conf : StreamConf} (hpolicy : conf.latePolicy ≠ "process")
    {done : List Frame} {mark : Option ℤ} (hrun : Reaches conf (FaithfulStep conf) done mark) :
    MarkInv done mark := by
  induction hrun with
  | start =>
      refine ⟨rfl, ?_⟩
      intro m hm
      cases hm
  | step _ hstep hbatch ih => exact markInv_step hpolicy ih hstep.1 hstep.2 hbatch

/-- The rows classified late are those older than the true maximum allows. -/
theorem late_iff {conf : StreamConf} {env : BatchEnv} {done : List Frame} {mark : Option ℤ}
    {batch : Frame} {out : BatchRun} (hpolicy : conf.latePolicy ≠ "process")
    (hinv : MarkInv done mark) (hfaithful : Faithful conf mark batch)
    (h : processBatch conf env mark batch = .ok out) {r : StreamRow} (hr : r ∈ batch.rows)
    (hparse : r.unparseable = false) {t : ℤ} (ht : r.event.eventTime = some t) :
    r ∈ out.routes.late.rows ↔
      ∃ M, trueMax done = some M ∧ t < M - conf.allowedLatenessSec * 1000000 := by
  have hrows : batch.count ≠ 0 := by
    intro hzero
    rw [List.length_eq_zero_iff.mp hzero] at hr
    cases hr
  have hdone := processBatch_completed h hrows
  rw [hinv.eq]
  cases mark with
  | none =>
      rw [(route_of_none hdone.routed).1]
      refine iff_of_false ?_ ?_
      · intro hmem
        cases hmem
      · rintro ⟨M, hM, -⟩
        cases hM
  | some m =>
      obtain ⟨c, hc, hlate, -⟩ := route_of_mark hpolicy hdone.routed
      have hcut := cutoffOf_of_exact (hfaithful.cutoff m rfl) hc
      rw [hlate, mem_late]
      constructor
      · rintro ⟨-, t', ht', hlt⟩
        obtain rfl := Option.some.inj (ht'.symm.trans ht)
        exact ⟨m * 1000, rfl, by omega⟩
      · rintro ⟨M, hM, hlt⟩
        obtain rfl : m * 1000 = M := Option.some.inj hM
        exact ⟨⟨hr, hparse⟩, t, ht, by omega⟩

/-- The mark never decreases. -/
theorem mark_mono {conf : StreamConf} {env : BatchEnv} {mark : Option ℤ} {batch : Frame}
    {out : BatchRun} (h : processBatch conf env mark batch = .ok out) {m : ℤ} (hm : mark = some m) :
    ∃ m', out.maxEventMs = some m' ∧ m ≤ m' := by
  by_cases hrows : batch.count = 0
  · exact ⟨m, (processBatch_empty h hrows).1.trans hm, le_refl m⟩
  · rw [(processBatch_completed h hrows).advanced, hm]
    cases highWater out.routes.good with
    | none => exact ⟨m, rfl, le_refl m⟩
    | some hw => exact ⟨_, rfl, le_max_left m _⟩

/-- **Lateness is judged against the true high-water mark**, in every run of faithful steps: late
are the rows older than the greatest event time of all earlier batches, less the allowed lateness;
the mark stands for that greatest event time, late rows included; it never decreases. -/
theorem lateness_of_faithful {conf : StreamConf} (hpolicy : conf.latePolicy ≠ "process")
    {done : List Frame} {mark : Option ℤ} (hrun : Reaches conf (FaithfulStep conf) done mark)
    {env : BatchEnv} {batch : Frame} {out : BatchRun} (hstep : FaithfulStep conf mark batch)
    (h : processBatch conf env mark batch = .ok out) :
    (∀ r ∈ batch.rows, r.unparseable = false → ∀ t, r.event.eventTime = some t →
      (r ∈ out.routes.late.rows ↔
        ∃ M, trueMax done = some M ∧ t < M - conf.allowedLatenessSec * 1000000)) ∧
    trueMax (done ++ [batch]) = out.maxEventMs.map (· * 1000) ∧
    ∀ m, mark = some m → ∃ m', out.maxEventMs = some m' ∧ m ≤ m' := by
  have hinv := mark_eq_trueMax hpolicy hrun
  refine ⟨?_, ?_, ?_⟩
  · intro r hr hparse t ht
    exact late_iff hpolicy hinv hstep.2 h hr hparse ht
  · exact (markInv_step hpolicy hinv hstep.1 hstep.2 h).eq
  · intro m hm
    exact mark_mono h hm

/-- The sample row at another event time. -/
def rowAt (us : ℤ) : StreamRow :=
  { sampleRow with event := { sampleRow.event with eventTime := some us } }

/-- A row at a time in range can be handed to Python. -/
theorem toPython_rowAt {us : ℤ} (h0 : datetimeMin ≤ us) (h1 : us ≤ datetimeMax) :
    toPython (rowAt us) = .ok () := by
  have hkafka : checkRange 0 = .ok 0 := by decide
  have hus : checkRange us = .ok us := if_pos ⟨h0, h1⟩
  show (checkRange 0 >>= fun _ => (some us).mapM checkRange >>= fun _ => .ok ()) = .ok ()
  rw [hkafka]
  show ((some us).mapM checkRange >>= fun _ => .ok ()) = .ok ()
  rw [Option.mapM_some, hus]
  rfl

/-- A first batch of one row is processed. -/
theorem exists_first (us : ℤ) (h0 : datetimeMin ≤ us) (h1 : us ≤ datetimeMax) :
    ∃ out, processBatch dlqConf quietEnv none [[rowAt us]] = .ok out := by
  have hroute : route dlqConf none [[rowAt us]] = .ok ⟨[[]], [], none, [], [[rowAt us]]⟩ := rfl
  refine exists_processBatch hroute ?_
    (fun _ => flakyEnv_listed) (fun _ => flakyEnv_listed) (fun _ => flakyEnv_listed)
  intro r hr
  obtain rfl := List.mem_singleton.mp hr
  exact toPython_rowAt h0 h1

/-- A later batch of one late row is processed. -/
theorem exists_late (m us : ℤ) (hm : |m - 120000| < 1000 * 2 ^ 32)
    (hlt : us < (m - 120000) * 1000) :
    ∃ out, processBatch dlqConf quietEnv (some m) [[rowAt us]] = .ok out ∧
      rowAt us ∈ out.routes.late.rows := by
  have hcutoff : cutoffOf dlqConf m = .ok ((m - 120000) * 1000) := cutoffOf_eq hm
  have hlate : isLate ((m - 120000) * 1000) (rowAt us) = some true :=
    isLate_eq_true_iff.mpr ⟨us, rfl, hlt⟩
  have hrest : isOnTime ((m - 120000) * 1000) (rowAt us) = some false := by
    rw [isOnTime_eq]
    show not3 (isLate ((m - 120000) * 1000) (rowAt us)) = some false
    rw [hlate]
    rfl
  have hparse : (rowAt us).unparseable = false := rfl
  have hpolicy : dlqConf.latePolicy = "dlq" := rfl
  have hroute : route dlqConf (some m) [[rowAt us]] =
      .ok ⟨[[]], [[rowAt us]], some ((m - 120000) * 1000), [[rowAt us]], [[]]⟩ := by
    simp [route, hcutoff, hpolicy, bind, Except.bind, parseable, Frame.where3, Frame.count,
      Frame.rows, filter3, isUnparseable, not3, hlate, hrest, hparse]
  have hrun : ∃ out, processBatch dlqConf quietEnv (some m) [[rowAt us]] = .ok out := by
    refine exists_processBatch hroute ?_
      (fun _ => flakyEnv_listed) (fun _ => flakyEnv_listed) (fun _ => flakyEnv_listed)
    intro r hr
    cases hr
  obtain ⟨out, hout⟩ := hrun
  have hrouted := (processBatch_completed hout one_ne_zero).routed
  rw [hroute] at hrouted
  refine ⟨out, hout, ?_⟩
  rw [← Except.ok.inj hrouted]
  exact List.mem_singleton_self _

/-- The newest time of a batch of one row. -/
theorem trueMax_rowAt (us : ℤ) : trueMax [[[rowAt us]]] = some us := rfl

/-- The newest time Spark finds in a batch of one row. -/
theorem highWater_rowAt (us : ℤ) : highWater (parseable [[rowAt us]]) = some us := rfl

/-- A first batch of one whole-millisecond row, faithful when it is not before 1970 and exact. -/
theorem faithfulStep_first {k : ℤ} (hk : 0 ≤ k) (hexact : ExactMillis k) :
    FaithfulStep dlqConf none [[rowAt (k * 1000)]] := by
  have htimes : eventTimes [[rowAt (k * 1000)]] = [some (k * 1000)] := rfl
  refine ⟨?_, ?_, ?_, ?_⟩
  · intro t ht
    rw [htimes] at ht
    obtain rfl := Option.some.inj (List.mem_singleton.mp ht)
    exact Dvd.intro_left k rfl
  · intro m hm
    cases hm
  · intro _ t ht
    obtain rfl : k * 1000 = t := Option.some.inj ht
    omega
  · intro t ht _
    obtain rfl : k * 1000 = t := Option.some.inj ht
    rw [Int.mul_ediv_cancel k (by norm_num)]
    exact hexact

/-- A batch of November 2023, then a row of 1970. -/
theorem lateness_of_faithful_2023 :
    ∃ out₁ out₂,
      processBatch dlqConf quietEnv none [[rowAt (1700000000000 * 1000)]] = .ok out₁ ∧
      processBatch dlqConf quietEnv out₁.maxEventMs [[rowAt 0]] = .ok out₂ ∧
      (∀ r ∈ Frame.rows [[rowAt 0]], r.unparseable = false → ∀ t, r.event.eventTime = some t →
        (r ∈ out₂.routes.late.rows ↔
          ∃ M, trueMax ([] ++ [[[rowAt (1700000000000 * 1000)]]]) = some M ∧
            t < M - dlqConf.allowedLatenessSec * 1000000)) ∧
      trueMax ([] ++ [[[rowAt (1700000000000 * 1000)]]] ++ [[[rowAt 0]]]) =
        out₂.maxEventMs.map (· * 1000) ∧
      ∀ m, out₁.maxEventMs = some m → ∃ m', out₂.maxEventMs = some m' ∧ m ≤ m' := by
  have hpolicy : dlqConf.latePolicy ≠ "process" := by decide
  have hexact : ExactMillis 1700000000000 :=
    exactMillis_of_window (e := 30) (by norm_num) (by norm_num) (by norm_num)
  have hstep₁ := faithfulStep_first (k := 1700000000000) (by norm_num) hexact
  obtain ⟨out₁, hout₁⟩ := exists_first (1700000000000 * 1000) (by decide) (by decide)
  have hrun₁ := Reaches.step (P := FaithfulStep dlqConf) Reaches.start hstep₁ hout₁
  have hmark : out₁.maxEventMs = some 1700000000000 := by
    have heq := (mark_eq_trueMax hpolicy hrun₁).eq
    obtain ⟨m, hm, hmul⟩ := Option.map_eq_some_iff.mp heq.symm
    rw [hm]
    exact congrArg some (mul_right_cancel₀ (by norm_num) hmul)
  obtain ⟨out₂, hout₂, -⟩ := exists_late 1700000000000 0 (by norm_num) (by norm_num)
  rw [← hmark] at hout₂
  have hstep₂ : FaithfulStep dlqConf out₁.maxEventMs [[rowAt 0]] := by
    rw [hmark]
    refine ⟨?_, ?_, ?_, ?_⟩
    · intro t ht
      obtain rfl := Option.some.inj (List.mem_singleton.mp ht)
      exact dvd_zero 1000
    · intro m hm
      obtain rfl := Option.some.inj hm
      exact exactSeconds_of_lt (by norm_num [dlqConf])
    · intro hnone
      cases hnone
    · intro t ht hlt
      obtain rfl : 0 = t := Option.some.inj ht
      exact absurd (hlt _ rfl) (by norm_num)
  exact ⟨out₁, out₂, hout₁, hout₂, lateness_of_faithful hpolicy hrun₁ hstep₂ hout₂⟩

/-- A batch whose only event is 1000 s before 1970, then an event 500 s before 1970: it is
classified late although the only event before it is older. -/
theorem negative_mark_misjudges :
    ∃ out₁ out₂,
      processBatch dlqConf quietEnv none [[rowAt (-1000000 * 1000)]] = .ok out₁ ∧
      processBatch dlqConf quietEnv out₁.maxEventMs [[rowAt (-500000 * 1000)]] = .ok out₂ ∧
      rowAt (-500000 * 1000) ∈ out₂.routes.late.rows ∧
      ¬∃ M, trueMax [[[rowAt (-1000000 * 1000)]]] = some M ∧
        -500000 * 1000 < M - dlqConf.allowedLatenessSec * 1000000 := by
  obtain ⟨out₁, hout₁⟩ := exists_first (-1000000 * 1000) (by decide) (by decide)
  have hexact : ExactMillis (-1000 * 1000) := exactMillis_of_seconds (by norm_num)
  have hhigh : highWaterMs (-1000000 * 1000) = -1000000 := by
    rw [show (-1000 * 1000 : ℤ) = -1000000 by norm_num] at hexact
    rw [highWaterMs_mul]
    exact hexact
  have hmark : out₁.maxEventMs = some 0 := by
    have hdone := processBatch_completed hout₁ one_ne_zero
    have hgood := (route_of_none hdone.routed).2
    rw [hdone.advanced, hgood, highWater_rowAt, advance, hhigh]
    decide
  obtain ⟨out₂, hout₂, hlate⟩ :=
    exists_late 0 (-500000 * 1000) (by norm_num) (by norm_num)
  rw [← hmark] at hout₂
  refine ⟨out₁, out₂, hout₁, hout₂, hlate, ?_⟩
  rintro ⟨M, hM, hlt⟩
  rw [trueMax_rowAt] at hM
  obtain rfl := Option.some.inj hM
  norm_num [dlqConf] at hlt

end TripPipeline.Streaming
