import TripPipeline.Streaming.Balance
import TripPipeline.Streaming.Batch

/-!
# Where the rows of a batch go

A batch is routed by three filters: `_unparseable` and its negation, `event_time < cutoff`, and,
only when that found a row, `event_time >= cutoff`. The first two are complements. The last two are
complements on rows whose event time is not null.

* `processBatch_routedOnce_iff`: every row takes exactly one route unless the batch is `Mixed`:
  under the policy `dlq`, with a mark, it contains a late row and a row whose event time is null.
  Then the latter takes no route.
-/

namespace TripPipeline.Streaming

open TripPipeline.Common TripPipeline.Lib

/-! ## Routes -/

/-- Every row of the batch is in exactly one of the three frames. -/
def Routes.Covers (routes : Routes) (batch : Frame) : Prop :=
  (routes.bad.rows ++ (routes.lateWrite.rows ++ routes.good.rows)).Perm batch.rows

/-- Every row of the batch went to exactly one of the unparseable write, the `late_event` write and
the partition writer. -/
def RoutedOnce (out : BatchRun) (batch : Frame) : Prop :=
  (out.routes.bad.rows ++ (out.routes.lateWrite.rows ++ out.blocks.flatMap Block.rows)).Perm
    batch.rows

/-- Under the policy `dlq` and with a mark, the batch has a parseable row older than the cutoff and
a parseable row without event time. -/
def Mixed (conf : StreamConf) (maxEventMs : Option ℤ) (batch : Frame) : Prop :=
  conf.latePolicy = "dlq" ∧ ∃ m cutoff, maxEventMs = some m ∧ cutoffOf conf m = .ok cutoff ∧
    (∃ r ∈ batch.rows, r.unparseable = false ∧ ∃ t, r.event.eventTime = some t ∧ t < cutoff) ∧
    ∃ r ∈ batch.rows, r.unparseable = false ∧ r.event.eventTime = none

/-- The filter keeps the rows that do not parse. -/
theorem rows_bad (batch : Frame) :
    (batch.where3 isUnparseable).rows = batch.rows.filter fun r => r.unparseable := by
  rw [Frame.rows_where3]
  exact filter3_some _ _

/-- The filter keeps the rows that parse. -/
theorem rows_parseable (batch : Frame) :
    (parseable batch).rows = batch.rows.filter fun r => !r.unparseable := by
  rw [parseable, Frame.rows_where3]
  exact filter3_not_some _ _

/-- The unparseable rows and the others are the batch. -/
theorem bad_append_parseable_perm (batch : Frame) :
    ((batch.where3 isUnparseable).rows ++ (parseable batch).rows).Perm batch.rows := by
  rw [rows_bad, rows_parseable]
  exact List.filter_append_perm _ _

/-- On time is not late, null included. -/
theorem isOnTime_eq (cutoff : ℤ) : isOnTime cutoff = fun r => not3 (isLate cutoff r) :=
  funext fun _ => ge3_eq_not_lt3 _ _

/-- A row is late when its time is before the cutoff. -/
theorem isLate_eq_true_iff {cutoff : ℤ} {r : StreamRow} :
    isLate cutoff r = some true ↔ ∃ t, r.event.eventTime = some t ∧ t < cutoff := by
  unfold isLate lt3
  cases r.event.eventTime <;> simp

/-- Whether a row is late is null when its time is. -/
theorem isLate_eq_none_iff {cutoff : ℤ} {r : StreamRow} :
    isLate cutoff r = none ↔ r.event.eventTime = none :=
  lt3_eq_none_iff _ _

/-- A parseable row is a row of the batch that parses. -/
theorem mem_parseable {batch : Frame} {r : StreamRow} :
    r ∈ (parseable batch).rows ↔
      r ∈ batch.rows ∧ r.unparseable = false := by
  rw [rows_parseable, List.mem_filter, Bool.not_eq_true']

/-- The two late filters give back a frame iff no event time in it is null. -/
theorem late_append_onTime_perm_iff (good : Frame) (cutoff : ℤ) :
    ((good.where3 (isLate cutoff)).rows ++ (good.where3 (isOnTime cutoff)).rows).Perm good.rows ↔
      ∀ r ∈ good.rows, r.event.eventTime ≠ none := by
  rw [Frame.rows_where3, Frame.rows_where3, isOnTime_eq, filter3_append_not_perm_iff]
  simp only [ne_eq, isLate_eq_none_iff]

/-- When nothing is filtered by event time, the routes are the parse filters. -/
theorem covers_of_unfiltered {batch : Frame} {routes : Routes}
    (hbad : routes.bad = batch.where3 isUnparseable)
    (hlate : routes.lateWrite = [])
    (hgood : routes.good = parseable batch) :
    routes.Covers batch := by
  unfold Routes.Covers
  rw [hbad, hlate, hgood]
  exact bad_append_parseable_perm batch

/-- **A batch is routed completely unless it is mixed.** -/
theorem route_covers_iff {conf : StreamConf} {maxEventMs : Option ℤ} {batch : Frame}
    {routes : Routes} (h : route conf maxEventMs batch = .ok routes)
    (hpolicy : conf.latePolicy = "dlq" ∨ conf.latePolicy = "process") :
    routes.Covers batch ↔ ¬Mixed conf maxEventMs batch := by
  unfold route at h
  rcases maxEventMs with _ | m
  · -- no mark yet: no cutoff
    obtain rfl := Except.ok.inj h
    refine iff_of_true (covers_of_unfiltered rfl rfl rfl) ?_
    rintro ⟨-, m, cutoff, hm, -⟩
    cases hm
  by_cases hprocess : conf.latePolicy = "process"
  · simp only [hprocess, ne_eq, not_true_eq_false, if_false] at h
    obtain rfl := Except.ok.inj h
    refine iff_of_true (covers_of_unfiltered rfl rfl rfl) ?_
    rintro ⟨hdlq, -⟩
    rw [hprocess] at hdlq
    exact absurd hdlq (by decide)
  have hdlq : conf.latePolicy = "dlq" := hpolicy.resolve_right hprocess
  dsimp only at h
  rw [if_pos hprocess] at h
  obtain ⟨cutoff, hcutoff, h⟩ := bind_eq_ok_iff.mp h
  by_cases hnone : ((parseable batch).where3 (isLate cutoff)).count = 0
  · -- no late row: the frame is not filtered again
    rw [if_neg (not_not.mpr hnone)] at h
    obtain rfl := Except.ok.inj h
    refine iff_of_true (covers_of_unfiltered rfl rfl rfl) ?_
    rintro ⟨-, m', cutoff', hm, hcutoff', ⟨r, hr, hparse, hlate⟩, -⟩
    obtain rfl := Option.some.inj hm
    obtain rfl : cutoff = cutoff' := Except.ok.inj (hcutoff.symm.trans hcutoff')
    have hnil := List.eq_nil_of_length_eq_zero hnone
    rw [Frame.rows_where3, filter3_eq_nil_iff] at hnil
    exact hnil r (mem_parseable.mpr ⟨hr, hparse⟩) (isLate_eq_true_iff.mpr hlate)
  · -- a late row: what is left is cut into two filters
    rw [if_pos hnone, if_pos hdlq] at h
    obtain rfl := Except.ok.inj h
    have hsplit : Routes.Covers
        ⟨batch.where3 isUnparseable,
          (parseable batch).where3 (isLate cutoff), some cutoff,
          (parseable batch).where3 (isLate cutoff),
          (parseable batch).where3 (isOnTime cutoff)⟩ batch ↔
        ∀ r ∈ (parseable batch).rows, r.event.eventTime ≠ none := by
      rw [← late_append_onTime_perm_iff (parseable batch) cutoff]
      unfold Routes.Covers
      rw [← (bad_append_parseable_perm batch).congr_right, List.perm_append_left_iff]
    rw [hsplit]
    constructor
    · rintro hall ⟨-, m', cutoff', -, -, -, r, hr, hparse, hnull⟩
      exact hall r (mem_parseable.mpr ⟨hr, hparse⟩) hnull
    · intro hmixed r hr hnull
      obtain ⟨hmem, hparse⟩ := mem_parseable.mp hr
      obtain ⟨late, hlate⟩ : ∃ late,
          late ∈ ((parseable batch).where3 (isLate cutoff)).rows :=
        List.exists_mem_of_ne_nil _ fun hnil => hnone (List.length_eq_zero_iff.mpr hnil)
      rw [Frame.rows_where3, mem_filter3, mem_parseable, isLate_eq_true_iff] at hlate
      exact hmixed ⟨hdlq, m, cutoff, rfl, hcutoff, ⟨late, hlate.1.1, hlate.1.2, hlate.2⟩,
        r, hmem, hparse, hnull⟩

/-! ## Whole batches -/

/-- **Batch routing loses nothing unless the batch is mixed.** -/
theorem processBatch_routedOnce_iff {conf : StreamConf} {env : BatchEnv} {maxEventMs : Option ℤ}
    {batch : Frame} {out : BatchRun} (h : processBatch conf env maxEventMs batch = .ok out)
    (hpolicy : conf.latePolicy = "dlq" ∨ conf.latePolicy = "process") :
    RoutedOnce out batch ↔ ¬Mixed conf maxEventMs batch := by
  by_cases hrows : batch.count = 0
  · -- an empty batch returns at once
    obtain ⟨-, hroutes, hblocks⟩ := processBatch_empty h hrows
    have hnil : batch.rows = [] := List.length_eq_zero_iff.mp hrows
    refine iff_of_true ?_ ?_
    · unfold RoutedOnce
      rw [hroutes, hblocks, hnil]
      exact List.Perm.refl []
    · rintro ⟨-, m, cutoff, -, -, ⟨r, hr, -⟩, -⟩
      rw [hnil] at hr
      cases hr
  · have hdone := processBatch_completed h hrows
    rw [← route_covers_iff hdone.routed hpolicy]
    unfold RoutedOnce Routes.Covers
    rw [List.flatMap_def, hdone.blocks_rows]
    rfl

/-- A configuration with the default policy and an allowed lateness of two minutes. -/
def dlqConf : StreamConf := ⟨sampleConf, 120, "dlq"⟩

/-- Nothing is lost between the actions. -/
def quietEnv : BatchEnv where
  unixTimestamp := 1700000000
  isoformat _ := ""
  collectStats _ := ⟨false, [], flakyEnv⟩
  countDlq _ := ⟨false, [], flakyEnv⟩
  saveDlq _ := ⟨false, [], flakyEnv⟩

/-- A parseable row whose event time is missing. -/
def timelessRow : StreamRow :=
  { sampleRow with event := { sampleRow.event with eventTime := none } }

/-- The cutoff of the sample mark, 120 seconds before it. -/
theorem cutoffOf_dlqConf : cutoffOf dlqConf 1000000 = .ok 880000000 :=
  (cutoffOf_eq (by norm_num [dlqConf])).trans (by norm_num [dlqConf])

/-- The route of a late row. -/
theorem route_late : route dlqConf (some 1000000) [[sampleRow]] =
    .ok ⟨[[]], [[sampleRow]], some 880000000, [[sampleRow]], [[]]⟩ := by
  have hdlq : dlqConf.latePolicy = "dlq" := rfl
  unfold route
  simp only [cutoffOf_dlqConf, hdlq]
  rfl

/-- The general result at a late row. -/
theorem processBatch_routedOnce_late :
    ∃ out, processBatch dlqConf quietEnv (some 1000000) [[sampleRow]] = .ok out ∧
      (RoutedOnce out [[sampleRow]] ↔ ¬Mixed dlqConf (some 1000000) [[sampleRow]]) := by
  have hrun : ∃ out, processBatch dlqConf quietEnv (some 1000000) [[sampleRow]] = .ok out := by
    rw [processBatch, if_neg (by decide), route_late]
    exact ⟨_, rfl⟩
  obtain ⟨out, hout⟩ := hrun
  exact ⟨out, hout, processBatch_routedOnce_iff hout (Or.inl rfl)⟩

/-- The route of a late row beside one without a time. -/
theorem route_mixed : route dlqConf (some 1000000) [[sampleRow, timelessRow]] =
    .ok ⟨[[]], [[sampleRow]], some 880000000, [[sampleRow]], [[]]⟩ := by
  have hdlq : dlqConf.latePolicy = "dlq" := rfl
  unfold route
  simp only [cutoffOf_dlqConf, hdlq]
  rfl

/-- A late row next to a row without event time: the latter goes nowhere. -/
theorem processBatch_mixed_loses_row :
    ∃ out, processBatch dlqConf quietEnv (some 1000000) [[sampleRow, timelessRow]] = .ok out ∧
      ¬RoutedOnce out [[sampleRow, timelessRow]] := by
  rw [processBatch, if_neg (by decide), route_mixed]
  refine ⟨_, rfl, fun h => ?_⟩
  exact absurd h.length_eq (by decide)

end TripPipeline.Streaming
