import Mathlib.Data.List.GetD
import Mathlib.Data.List.Sort
import TripPipeline.Streaming.Budget
import TripPipeline.Streaming.Effects
import TripPipeline.Streaming.Merge
import TripPipeline.Streaming.Progress

/-!
# The summary of a job

At its end the stream job adds up the reports of its batches, and derives rates and percentiles.

* `retrying`: what holds of the retries of any run of the partition writer, statement by statement.
* `BatchReport.Sound`: what holds of the report of any batch, whatever was cached, lost or evaluated
  again.
* `pct_mono`: the percentiles are in order, and each is the time of a batch (`pct_mem`).
* `writeSummary_sound`: so the summary agrees with itself, for every job.
-/

namespace TripPipeline.Streaming

open TripPipeline.Common TripPipeline.Lib

/-! ## The summary -/

/-- A percentile of the sorted times of the batches.
Source: `streaming/stream_job.py` `TripStream._write_summary` -/
def pct (durations : List ℚ) (p : ℚ) : ℚ :=
  if durations.isEmpty then 0
  else
    let idx := min ((durations.length : ℤ) - 1)
      (roundHalfEven (fl (fl (p / 100) * (durations.length - 1 : ℤ))))
    roundPlaces 4 (durations.getD idx.toNat 0)

/-- What `_write_summary` derives from the reports. -/
structure JobSummary where
  batches : ℕ
  nonEmptyBatches : ℕ
  inputRows : ℕ
  rowsWrittenCassandra : ℕ
  writeAmplification : Option ℚ
  unparseable : ℕ
  lateEvents : ℕ
  dlqTotal : ℕ
  cassandraWriteSuccesses : ℕ
  cassandraWriteRetries : ℕ
  avgRetriesToSuccessAllWrites : ℚ
  writesNeedingRetry : ℕ
  avgRetriesAmongRetriedWrites : ℚ
  meanE2eLatencyMsSampled : Option ℚ
  latencySamples : ℕ
  batchSecondsP50 : ℚ
  batchSecondsP95 : ℚ
  batchSecondsP99 : ℚ
  failureReasons : Counter String

/-- The sum of a count over the reports. -/
def total (f : BatchReport → ℕ) (reports : List Recorded) : ℕ :=
  (reports.map fun r => f r.report).sum

/-- `durations`. -/
def durationsOf (reports : List Recorded) : List ℚ :=
  ((reports.filter fun r => 0 < r.report.inputRows).map fun r => roundPlaces 4 r.seconds).mergeSort
    (· ≤ ·)

/-- Source: `streaming/stream_job.py` `TripStream._write_summary` -/
def writeSummary (reports : List Recorded) : JobSummary :=
  let totalIn := total (·.inputRows) reports
  let totalWritten := total (·.agg.rowsWritten) reports
  let successes := total (·.agg.successes) reports
  let retries := total (·.agg.retriesBeforeSuccess) reports
  let retriedWrites := total (·.agg.retriedWrites) reports
  let retriedRetries := total (·.agg.retriedWritesRetries) reports
  let latSum := (reports.map fun r => r.report.agg.latencySumMs).sum
  let latCnt := total (·.agg.latencyCount) reports
  let reasons :=
    (reports.map fun r => r.report.agg.failureReasons).foldl Counter.merge Counter.empty
  let durations := durationsOf reports
  { batches := reports.length
    nonEmptyBatches := (reports.filter fun r => 0 < r.report.inputRows).length
    inputRows := totalIn
    rowsWrittenCassandra := totalWritten
    writeAmplification :=
      if totalIn ≠ 0 then some (roundPlaces 3 (fl (totalWritten / totalIn))) else none
    unparseable := total (·.unparseable) reports
    lateEvents := total (·.late) reports
    dlqTotal := total (·.dlq) reports
    cassandraWriteSuccesses := successes
    cassandraWriteRetries := retries
    avgRetriesToSuccessAllWrites :=
      if successes ≠ 0 then roundPlaces 5 (fl (retries / successes)) else 0
    writesNeedingRetry := retriedWrites
    avgRetriesAmongRetriedWrites :=
      if retriedWrites ≠ 0 then roundPlaces 3 (fl (retriedRetries / retriedWrites)) else 0
    meanE2eLatencyMsSampled :=
      if latCnt ≠ 0 then some (roundPlaces 2 (fl (latSum / latCnt))) else none
    latencySamples := latCnt
    batchSecondsP50 := pct durations 50
    batchSecondsP95 := pct durations 95
    batchSecondsP99 := pct durations 99
    failureReasons := reasons.sortKeys }

/-! ## Retries -/

/-- What a row comes to at most: a write to every table, or one refusal. -/
def perRow (conf : SinkConf) : ℕ := max 1 (allTables.filter (· ∈ conf.tables)).length

/-- The budget of the retry loop. -/
abbrev loopBudget (conf : SinkConf) : ℕ := attemptBudget (retryPolicy conf.retry)

/-- The retries of a write: at least one, within the budget, and none without a failure. -/
structure Tally.Retrying (budget : ℕ) (t : Tally) : Prop where
  written : t.retriedWrites ≤ t.rowsWritten
  least : t.retriedWrites ≤ t.retriedWritesRetries
  most : t.retriedWritesRetries ≤ budget * t.retriedWrites
  reasons : t.retriedWritesRetries ≤ t.reasons.card

/-- They are closed under sums. -/
def retrying (budget : ℕ) : AddSubmonoid Tally where
  carrier := {t | t.Retrying budget}
  zero_mem' := ⟨le_rfl, le_rfl, le_rfl, le_rfl⟩
  add_mem' := by
    rintro a b ⟨ha₁, ha₂, ha₃, ha₄⟩ ⟨hb₁, hb₂, hb₃, hb₄⟩
    refine ⟨add_le_add ha₁ hb₁, add_le_add ha₂ hb₂, ?_, ?_⟩
    · rw [Tally.add_retriedWritesRetries, Tally.add_retriedWrites, Nat.mul_add]
      exact add_le_add ha₃ hb₃
    · rw [Tally.add_retriedWritesRetries, Tally.add_reasons, Multiset.card_add]
      exact add_le_add ha₄ hb₄

section retries

variable (env : SinkEnv) (conf : SinkConf)

/-- A tally without retries retries within any budget. -/
theorem retrying_of_none {budget : ℕ} {t : Tally} (hnone : t.retriedWrites = 0)
    (hretries : t.retriedWritesRetries = 0) : t ∈ retrying budget := by
  refine ⟨?_, ?_, ?_, ?_⟩
  · rw [hnone]
    exact Nat.zero_le _
  · rw [hnone]
    exact Nat.zero_le _
  · rw [hretries]
    exact Nat.zero_le _
  · rw [hretries]
    exact Nat.zero_le _

/-- Quarantining an exhausted statement retries nothing. -/
theorem exhaustedTally_retrying (w : Work) (r : CallResult Unit) :
    exhaustedTally env conf w r ∈ retrying (loopBudget conf) := by
  cases r <;> exact retrying_of_none rfl rfl

/-- A retry loop that ends retries its write within the budget; the failure before it is the reason
for the first retry. -/
theorem retrying_retryTally {w : Work} {e : Exc}
    (hfirst : env.outcome w.pos w.stmt.key 0 = .error e)
    (hw : ∀ x, (retryTrial env conf w).ending ≠ .escaped x) :
    fastTally env w + retryTally env conf w ∈ retrying (loopBudget conf) := by
  have hcalls := Trial.calls_eq hw
  have hbudget : _ ≤ loopBudget conf := calls_le env conf w
  rw [retryTally, ← add_assoc]
  refine (retrying _).add_mem ?_ (exhaustedTally_retrying env conf w _)
  have hwins : (retryTrial env conf w).wins ≤ 1 := by
    unfold Trial.wins
    split <;> decide
  unfold fastTally
  rw [hfirst]
  -- the loop wins once, after its errors, or never
  rcases Nat.le_one_iff_eq_zero_or_eq_one.mp hwins with hzero | hone
  · refine retrying_of_none ?_ ?_
    · simp [hzero]
    · simp [hzero]
  · refine ⟨?_, ?_, ?_, ?_⟩
    · simp
    · simp [hone]
    · simp [hone]
      omega
    · simp [hone]

/-- A statement is retried within the budget. -/
theorem retrying_stmtTally {w : Work} (hw : ∀ f, failure? env w = some f → Settles env conf f) :
    stmtTally env conf w ∈ retrying (loopBudget conf) := by
  unfold stmtTally
  cases hout : env.outcome w.pos w.stmt.key 0 with
  | ok u =>
      have hnone : failure? env w = none := by rw [failure?, hout]
      rw [hnone, fastTally, hout]
      exact retrying_of_none rfl rfl
  | error e =>
      have hfail : failure? env w = some (w, e) := by rw [failure?, hout]
      rw [hfail, Option.map_some, Option.getD_some, lateTally]
      by_cases hperm : e.isInstance permanent = true
      · rw [if_pos hperm, fastTally, hout]
        exact retrying_of_none rfl rfl
      · rw [if_neg hperm]
        exact retrying_retryTally env conf hout ((hw _ hfail).resolve_left hperm)

/-- A row is retried within the budget. -/
theorem retrying_rowTally {ingestedAtMs : ℤ} {item : StreamRow × ℕ}
    (h : RowSettles env conf ingestedAtMs item) :
    rowTally env conf ingestedAtMs item ∈ retrying (loopBudget conf) := by
  refine (retrying _).add_mem ?_ ((retrying _).list_sum_mem ?_)
  · unfold buildTally
    split
    · exact (retrying _).zero_mem
    · split_ifs <;> exact retrying_of_none rfl rfl
  · intro t ht
    obtain ⟨w, hw, rfl⟩ := List.mem_map.mp ht
    exact retrying_stmtTally env conf (h w hw)

/-! ## Rows -/

/-- The writes and the quarantined records. -/
def accounted : Tally →+ ℕ where
  toFun t := t.rowsWritten + t.quarantined.card
  map_zero' := rfl
  map_add' a b := by
    rw [Tally.add_rowsWritten, Tally.add_quarantined, Multiset.card_add]
    exact add_add_add_comm _ _ _ _

/-- Each statement of the work is accounted for once. -/
theorem accounted_work {work : List Work}
    (hw : ∀ w ∈ work, ∀ f, failure? env w = some f → Settles env conf f) :
    accounted (work.map (stmtTally env conf)).sum = work.length := by
  induction work with
  | nil => rfl
  | cons w work ih =>
      rw [List.map_cons, List.sum_cons, map_add,
        ih fun w' hw' => hw w' (List.mem_cons_of_mem _ hw'), List.length_cons, add_comm]
      exact congrArg (work.length + ·)
        (rowsWritten_add_card_stmtTally env conf (hw w List.mem_cons_self))

/-- **A row comes to a write or a record for each of its statements, or to one record.** -/
theorem accounted_rowTally {ingestedAtMs : ℤ} {item : StreamRow × ℕ}
    (h : RowSettles env conf ingestedAtMs item) :
    accounted (rowTally env conf ingestedAtMs item) ≤ perRow conf := by
  rw [rowTally, map_add, accounted_work env conf h]
  cases hb : buildStatements item.1.asDict conf.tables ingestedAtMs with
  | ok stmts =>
      have hnone : buildTally env conf ingestedAtMs item = 0 := by rw [buildTally, hb]
      have hlength : (rowWork conf ingestedAtMs item).length =
          (allTables.filter (· ∈ conf.tables)).length := by
        rw [rowWork, hb, List.length_map, ← buildStatements_keys hb, List.length_map]
      rw [hnone, map_zero, zero_add, hlength]
      exact le_max_right _ _
  | error e =>
      have hwork : rowWork conf ingestedAtMs item = [] := by rw [rowWork, hb]
      have hone : accounted (buildTally env conf ingestedAtMs item) = 1 := by
        unfold buildTally
        rw [hb]
        dsimp only
        split_ifs <;> rfl
      rw [hwork, hone]
      exact le_max_left _ _

end retries

/-! ## A run of the partition writer -/

section runs

variable {env : SinkEnv} {conf : SinkConf} {rows : List StreamRow} {run : PartitionRun}

/-- What holds of the tally of any run over some rows. -/
structure Tally.Sound (conf : SinkConf) (rows : ℕ) (t : Tally) : Prop where
  balanced : t.Balanced
  retrying : t.Retrying (loopBudget conf)
  accounted : t.rowsWritten + t.quarantined.card ≤ perRow conf * rows

/-- Sound tallies add up. -/
theorem Tally.Sound.add {m n : ℕ} {t u : Tally} (ht : t.Sound conf m) (hu : u.Sound conf n) :
    (t + u).Sound conf (m + n) where
  balanced := Streaming.balanced.add_mem ht.balanced hu.balanced
  retrying := (Streaming.retrying _).add_mem ht.retrying hu.retrying
  accounted := by
    have hsum := Nat.add_le_add ht.accounted hu.accounted
    rw [← Nat.mul_add] at hsum
    exact (map_add Streaming.accounted t u).le.trans hsum

/-- The empty tally is sound. -/
theorem Tally.Sound.zero : (0 : Tally).Sound conf 0 where
  balanced := Streaming.balanced.zero_mem
  retrying := (Streaming.retrying _).zero_mem
  accounted := le_rfl

/-- The tally of a row is sound. -/
theorem sound_rowTally {ingestedAtMs : ℤ} {item : StreamRow × ℕ}
    (h : RowSettles env conf ingestedAtMs item) :
    (rowTally env conf ingestedAtMs item).Sound conf 1 where
  balanced := balanced_rowTally env conf h
  retrying := retrying_rowTally env conf h
  accounted := by
    rw [Nat.mul_one]
    exact accounted_rowTally env conf h

/-- Sound tallies add up. -/
theorem sound_sum {α : Type} {tally : α → Tally} {size : α → ℕ} {l : List α}
    (h : ∀ a ∈ l, (tally a).Sound conf (size a)) :
    (l.map tally).sum.Sound conf (l.map size).sum := by
  induction l with
  | nil => exact Tally.Sound.zero
  | cons a l ih =>
      rw [List.map_cons, List.sum_cons, List.map_cons, List.sum_cons]
      exact (h a List.mem_cons_self).add (ih fun b hb => h b (List.mem_cons_of_mem a hb))

/-- **Every run has a sound tally, and reports it.** -/
theorem writePartition_sound (h : writePartition env conf rows = .ok run) :
    ∃ t : Tally, t.Sound conf rows.length ∧ Reports run t := by
  refine ⟨_, ?_, reports_of_run h⟩
  obtain ⟨-, -, hsettles, -⟩ := writePartition_tally env conf h
  have hlength : ((chunks conf rows).map List.length).sum = rows.length := by
    rw [← List.length_flatten, chunks, flatten_batched, List.length_zipIdx]
  rw [← hlength]
  refine sound_sum fun chunk hchunk => ?_
  have hone : chunk.length = (chunk.map fun _ => 1).sum := by simp
  rw [hone]
  exact sound_sum fun item hitem => sound_rowTally (hsettles chunk hchunk item hitem)

end runs

/-! ## A batch -/

/-- What holds of the report of any batch. -/
structure BatchReport.Sound (conf : SinkConf) (r : BatchReport) : Prop where
  written : r.agg.rowsWritten = r.agg.successes
  attempts : r.agg.attempts = r.agg.successes + r.agg.failureReasons.toMultiset.card
  retries : r.agg.retriesBeforeSuccess = r.agg.retriedWritesRetries
  retried : r.agg.retriedWrites ≤ r.agg.rowsWritten
  least : r.agg.retriedWrites ≤ r.agg.retriedWritesRetries
  most : r.agg.retriedWritesRetries ≤ loopBudget conf * r.agg.retriedWrites
  reasons : r.agg.retriedWritesRetries ≤ r.agg.failureReasons.toMultiset.card
  rows : r.agg.rowsWritten + perRow conf * r.unparseable ≤ perRow conf * r.inputRows
  records : r.dlq + perRow conf * r.unparseable ≤ perRow conf * r.inputRows

section batch

variable {conf : SinkConf} {access : ℕ → Access} {blocks : List Block}
  {reads : List (PartitionRun × Block)}

/-- The runs an action reads, with what they report. -/
theorem exists_tallies (hb : ∀ b ∈ blocks, b.Sound conf)
    (h : readAll conf access blocks = .ok reads) :
    ∃ tally : PartitionRun × Block → Tally, ∀ r ∈ reads,
      (tally r).Sound conf r.2.rows.length ∧ Reports r.1 (tally r) := by
  have hall : ∀ r, ∃ t : Tally, r ∈ reads → t.Sound conf r.2.rows.length ∧ Reports r.1 t := by
    intro r
    by_cases hr : r ∈ reads
    · obtain ⟨-, senv, hrun⟩ := (readAll_sound hb h r hr).2
      obtain ⟨t, ht⟩ := writePartition_sound hrun
      exact ⟨t, fun _ => ht⟩
    · exact ⟨0, fun hmem => absurd hmem hr⟩
  exact ⟨fun r => (hall r).choose, fun r hr => (hall r).choose_spec hr⟩

/-- The rows behind what an action reads. -/
theorem rows_readAll (h : readAll conf access blocks = .ok reads) :
    (reads.map fun r => r.2.rows.length).sum = (blocks.map fun b => b.rows.length).sum := by
  have hrows := congrArg (List.map List.length) (readAll_rows h)
  rw [List.map_map, List.map_map] at hrows
  exact congrArg List.sum hrows

/-- **The merged counters are those of a sound tally.** -/
theorem tells_of_readAll (hb : ∀ b ∈ blocks, b.Sound conf)
    (h : readAll conf access blocks = .ok reads) :
    ∃ t : Tally, t.Sound conf (blocks.map fun b => b.rows.length).sum ∧
      (mergeStats (statsRows (reads.map Prod.fst))).Tells t := by
  obtain ⟨tally, htally⟩ := exists_tallies hb h
  refine ⟨(reads.map tally).sum, ?_, mergeStats_tells ?_⟩
  · rw [← rows_readAll h]
    exact sound_sum fun r hr => (htally r hr).1
  · have hstats : statsRows (reads.map Prod.fst) =
        reads.flatMap fun r => r.1.yields.filterMap SinkTuple.stats? := by
      rw [statsRows, List.filterMap_flatMap, List.flatMap_map]
      rfl
    rw [hstats]
    clear h hstats
    induction reads with
    | nil => exact List.Forall₂.nil
    | cons r reads ih =>
        obtain ⟨p, hp, htells⟩ := (htally r List.mem_cons_self).2.tells
        rw [List.flatMap_cons, hp]
        exact List.Forall₂.cons htells (ih fun r' hr' => htally r' (List.mem_cons_of_mem r hr'))

/-- The records an action reads are within the rows. -/
theorem length_dlqRows_le (hb : ∀ b ∈ blocks, b.Sound conf)
    (h : readAll conf access blocks = .ok reads) :
    (dlqRows (reads.map Prod.fst)).length ≤
      perRow conf * (blocks.map fun b => b.rows.length).sum := by
  obtain ⟨tally, htally⟩ := exists_tallies hb h
  have hlength : (dlqRows (reads.map Prod.fst)).length =
      (reads.map fun r => (r.1.yields.filterMap SinkTuple.record?).length).sum := by
    rw [dlqRows, List.filterMap_flatMap, List.length_flatMap, List.map_map]
    refine congrArg List.sum (List.map_congr_left fun r _ => ?_)
    rw [Function.comp_apply, List.length_filterMap_eq_countP, List.length_filterMap_eq_countP]
    refine congrArg (List.countP · _) (funext fun y => ?_)
    cases y <;> rfl
  rw [hlength, ← rows_readAll h, ← List.sum_map_mul_left]
  refine List.sum_le_sum fun r hr => ?_
  obtain ⟨hsound, hreports⟩ := htally r hr
  have hcard := congrArg Multiset.card hreports.records
  rw [Multiset.coe_card] at hcard
  rw [hcard]
  exact (Nat.le_add_left _ _).trans hsound.accounted

end batch

/-- The parseable rows that are left, and the unparseable ones, are rows of the batch. -/
theorem count_good_add_bad {conf : StreamConf} {mark : Option ℤ} {batch : Frame} {routes : Routes}
    (h : route conf mark batch = .ok routes) :
    routes.good.count + routes.bad.count ≤ batch.count := by
  have hsplit := (bad_append_parseable_perm batch).length_eq
  rw [List.length_append] at hsplit
  have hgood : routes.good.count ≤ (parseable batch).count := by
    rcases (route_cases h).2 with ⟨-, hgood⟩ | ⟨cutoff, -, hgood, -⟩
    · rw [hgood]
    · rw [hgood, Frame.count, Frame.rows_where3, filter3]
      exact List.length_filter_le _ _
  rw [(route_cases h).1]
  unfold Frame.count at *
  omega

/-- The merged counters of a sound tally, for a batch with so many rows. -/
theorem report_sound {conf : SinkConf} {t : Tally} {rows : ℕ} (ht : t.Sound conf rows)
    {r : BatchReport} (hagg : r.agg.Tells t) (hrows : rows + r.unparseable ≤ r.inputRows)
    (hdlq : r.dlq ≤ perRow conf * rows) : r.Sound conf := by
  obtain ⟨hcounts, -, hreasons⟩ := hagg
  simp only [Agg.counts, Tally.counts, SinkCounts.mk.injEq] at hcounts
  obtain ⟨hwritten, -, -, hretried, hretries, hattempts, hsuccesses, -, hbefore⟩ := hcounts
  have hinput := Nat.mul_le_mul_left (perRow conf) hrows
  rw [Nat.mul_add] at hinput
  have haccounted := ht.accounted
  refine ⟨?_, ?_, ?_, ?_, ?_, ?_, ?_, ?_, ?_⟩
  · rw [hwritten, hsuccesses, ht.balanced.successes]
  · rw [hattempts, hsuccesses, hreasons, ht.balanced.attempts]
  · rw [hbefore, hretries, ht.balanced.retries]
  · rw [hretried, hwritten]
    exact ht.retrying.written
  · rw [hretried, hretries]
    exact ht.retrying.least
  · rw [hretried, hretries]
    exact ht.retrying.most
  · rw [hretries, hreasons]
    exact ht.retrying.reasons
  · rw [hwritten]
    omega
  · omega

/-- **The report of any batch is sound.** -/
theorem processBatch_report_sound {conf : StreamConf} {env : BatchEnv} {mark : Option ℤ}
    {batch : Frame} {out : BatchRun} (h : processBatch conf env mark batch = .ok out) :
    out.report.Sound conf.sink := by
  by_cases hrows : batch.count = 0
  · rw [processBatch, if_pos hrows] at h
    obtain rfl := Except.ok.inj h
    exact report_sound Tally.Sound.zero ⟨rfl, Counter.positive_empty, rfl⟩ le_rfl (Nat.zero_le _)
  obtain ⟨routes, hroutes, collected, counted, hcollected, hcounted, hreport⟩ :
      ∃ routes, route conf mark batch = .ok routes ∧ ∃ collected counted,
        readAll conf.sink env.collectStats (routes.good.map fun rows => ⟨rows, none, []⟩) =
          .ok collected ∧
        readAll conf.sink env.countDlq (collected.map Prod.snd) = .ok counted ∧
        out.report = ⟨batch.count, routes.bad.count, routes.late.count,
          (dlqRows (counted.map Prod.fst)).length,
          mergeStats (statsRows (collected.map Prod.fst))⟩ := by
    rw [processBatch, if_neg hrows] at h
    obtain ⟨routes, hroutes, h⟩ := bind_eq_ok_iff.mp h
    obtain ⟨-, h⟩ := bind_unit_eq_ok_iff.mp h
    obtain ⟨collected, hcollected, h⟩ := bind_eq_ok_iff.mp h
    obtain ⟨counted, hcounted, h⟩ := bind_eq_ok_iff.mp h
    refine ⟨routes, hroutes, collected, counted, hcollected, hcounted, ?_⟩
    dsimp only at h
    split_ifs at h
    · obtain ⟨saved, -, h⟩ := bind_eq_ok_iff.mp h
      obtain rfl := Except.ok.inj h
      rfl
    · obtain rfl := Except.ok.inj h
      rfl
  have hstart := sound_start conf.sink routes.good
  have hsize : ((routes.good.map fun rows => (⟨rows, none, []⟩ : Block)).map
      fun b => b.rows.length).sum = routes.good.count := by
    rw [List.map_map, Frame.count, Frame.rows, List.length_flatten]
    rfl
  obtain ⟨t, ht, htells⟩ := tells_of_readAll hstart hcollected
  rw [hsize] at ht
  have hrecords := length_dlqRows_le (readAll_blocks_sound hstart hcollected) hcounted
  have hsame : ((collected.map Prod.snd).map fun b => b.rows.length).sum = routes.good.count := by
    rw [← hsize, ← rows_readAll hcollected, List.map_map]
    rfl
  rw [hsame] at hrecords
  rw [hreport]
  exact report_sound ht htells (count_good_add_bad hroutes) hrecords

/-! ## Percentiles -/

/-- The place of a percentile. -/
def place (n : ℕ) (p : ℚ) : ℕ :=
  (min ((n : ℤ) - 1) (roundHalfEven (fl (fl (p / 100) * (n - 1 : ℤ))))).toNat

/-- A percentile is the rounded duration at its place. -/
theorem pct_eq {durations : List ℚ} (hne : durations ≠ []) (p : ℚ) :
    pct durations p = roundPlaces 4 (durations.getD (place durations.length p) 0) := by
  rw [pct, if_neg (by simpa using hne)]
  rfl

/-- The place of a percentile is inside the list. -/
theorem place_lt {n : ℕ} (hn : 0 < n) (p : ℚ) : place n p < n := by
  unfold place
  omega

/-- A larger percentile has a later place. -/
theorem place_mono {n : ℕ} (hn : 0 < n) {p q : ℚ} (h : p ≤ q) : place n p ≤ place n q := by
  have hsize : (0 : ℚ) ≤ ((n - 1 : ℤ) : ℚ) := by
    rw [← Int.cast_zero]
    exact Int.cast_le.mpr (by omega)
  have hshare : fl (p / 100) ≤ fl (q / 100) := fl_mono (by linarith)
  have hround := roundHalfEven_mono (fl_mono (mul_le_mul_of_nonneg_right hshare hsize))
  exact Int.toNat_le_toNat (min_le_min_left _ hround)

/-- Rounding to places is monotone. -/
theorem roundPlaces_mono {n : ℕ} {x y : ℚ} (h : x ≤ y) : roundPlaces n x ≤ roundPlaces n y := by
  have hround :=
    roundHalfEven_mono (mul_le_mul_of_nonneg_right h (by positivity : (0 : ℚ) ≤ 10 ^ n))
  refine fl_mono (div_le_div_of_nonneg_right ?_ (by positivity))
  exact Int.cast_le.mpr hround

/-- **A percentile is the time of a batch.** -/
theorem pct_mem {durations : List ℚ} (hne : durations ≠ []) (p : ℚ) :
    ∃ x ∈ durations, pct durations p = roundPlaces 4 x := by
  have hlt := place_lt (List.length_pos_iff.mpr hne) p
  refine ⟨_, List.getElem_mem hlt, ?_⟩
  rw [pct_eq hne, List.getD_eq_getElem _ _ hlt]

/-- **Percentiles are in order.** -/
theorem pct_mono {durations : List ℚ} (hsorted : durations.Pairwise (· ≤ ·)) {p q : ℚ} (h : p ≤ q) :
    pct durations p ≤ pct durations q := by
  rcases eq_or_ne durations [] with rfl | hne
  · exact le_rfl
  have hpos := List.length_pos_iff.mpr hne
  have hp := place_lt hpos p
  have hq := place_lt hpos q
  rw [pct_eq hne, pct_eq hne, List.getD_eq_getElem _ _ hp, List.getD_eq_getElem _ _ hq]
  refine roundPlaces_mono ?_
  rcases (place_mono hpos h).eq_or_lt with heq | hlt
  · exact le_of_eq (by simp only [heq])
  · exact List.pairwise_iff_getElem.mp hsorted _ _ hp hq hlt

/-! ## The job -/

/-- An integer is rounded to itself. -/
theorem roundPlaces_intCast {n : ℕ} {k : ℤ} (h : |k| < 2 ^ 53) : roundPlaces n k = k := by
  have hscaled : ((k : ℚ) * 10 ^ n) = ((k * 10 ^ n : ℤ) : ℚ) := by push_cast; rfl
  have hten : (10 : ℚ) ^ n ≠ 0 := by positivity
  rw [roundPlaces, hscaled, roundHalfEven_intCast, ← hscaled, mul_div_assoc, div_self hten, mul_one,
    fl_intCast h]

/-- A natural number is rounded to itself. -/
theorem roundPlaces_natCast {n k : ℕ} (h : k < 2 ^ 53) : roundPlaces n (k : ℚ) = k := by
  have hk : |(k : ℤ)| < 2 ^ 53 := by
    rw [Nat.abs_cast]
    exact_mod_cast h
  exact_mod_cast roundPlaces_intCast (n := n) hk

/-- **A rounded ratio keeps to the bounds of the ratio** that are integers. -/
theorem roundPlaces_ratio {n a b k : ℕ} (hb : b ≠ 0) (hk : k < 2 ^ 53) :
    (a ≤ k * b → roundPlaces n (fl ((a : ℚ) / b)) ≤ k) ∧
      (k * b ≤ a → (k : ℚ) ≤ roundPlaces n (fl ((a : ℚ) / b))) := by
  have hpos : (0 : ℚ) < b := Nat.cast_pos.mpr (Nat.pos_of_ne_zero hb)
  have hexact : roundPlaces n (fl (k : ℚ)) = k := by
    have habs : |(k : ℤ)| < 2 ^ 53 := by
      rw [Nat.abs_cast]
      exact_mod_cast hk
    have hfl : fl (k : ℚ) = k := by exact_mod_cast fl_intCast habs
    rw [hfl, roundPlaces_natCast hk]
  constructor
  · intro hle
    have hratio : (a : ℚ) / b ≤ k := (div_le_iff₀ hpos).mpr (by exact_mod_cast hle)
    rw [← hexact]
    exact roundPlaces_mono (fl_mono hratio)
  · intro hle
    have hratio : (k : ℚ) ≤ (a : ℚ) / b := (le_div_iff₀ hpos).mpr (by exact_mod_cast hle)
    conv_lhs => rw [← hexact]
    exact roundPlaces_mono (fl_mono hratio)

/-- The report is that of a batch which ended normally. -/
def Reported (conf : StreamConf) (r : Recorded) : Prop :=
  ∃ env mark batch out, processBatch conf env mark batch = .ok out ∧ r.report = out.report

/-- What a summary says agrees with itself and with the reports. -/
structure JobSummary.Sound (conf : SinkConf) (reports : List Recorded) (s : JobSummary) : Prop where
  written : s.rowsWrittenCassandra = s.cassandraWriteSuccesses
  rows : s.rowsWrittenCassandra + perRow conf * s.unparseable ≤ perRow conf * s.inputRows
  records : s.dlqTotal + perRow conf * s.unparseable ≤ perRow conf * s.inputRows
  amplification : ∀ x, s.writeAmplification = some x → 0 ≤ x ∧ x ≤ perRow conf
  retried : s.writesNeedingRetry ≤ s.rowsWrittenCassandra
  least : s.writesNeedingRetry ≤ s.cassandraWriteRetries
  most : s.cassandraWriteRetries ≤ loopBudget conf * s.writesNeedingRetry
  reasons : s.cassandraWriteRetries ≤ s.failureReasons.toMultiset.card
  average : s.writesNeedingRetry ≠ 0 → loopBudget conf < 2 ^ 53 →
    1 ≤ s.avgRetriesAmongRetriedWrites ∧ s.avgRetriesAmongRetriedWrites ≤ loopBudget conf
  ordered : s.batchSecondsP50 ≤ s.batchSecondsP95 ∧ s.batchSecondsP95 ≤ s.batchSecondsP99
  percentiles : s.nonEmptyBatches ≠ 0 →
    ∀ x ∈ [s.batchSecondsP50, s.batchSecondsP95, s.batchSecondsP99],
      ∃ r ∈ reports, 0 < r.report.inputRows ∧ x = roundPlaces 4 (roundPlaces 4 r.seconds)

section totals

variable {reports : List Recorded} {f g : BatchReport → ℕ}

/-- Equal counters have equal totals. -/
theorem total_congr (h : ∀ r ∈ reports, f r.report = g r.report) :
    total f reports = total g reports :=
  congrArg List.sum (List.map_congr_left h)

/-- Smaller counters have smaller totals. -/
theorem total_le (h : ∀ r ∈ reports, f r.report ≤ g r.report) :
    total f reports ≤ total g reports :=
  List.sum_le_sum h

/-- A multiple can be taken out of a total. -/
theorem total_mul (k : ℕ) : total (fun r => k * f r) reports = k * total f reports :=
  List.sum_map_mul_left _ _ _

/-- Totals add up. -/
theorem total_add : total (fun r => f r + g r) reports = total f reports + total g reports :=
  List.sum_map_add

/-- The merged reasons of a job. -/
theorem card_reasons (cs : List (Counter String)) :
    (cs.foldl Counter.merge Counter.empty).toMultiset.card =
      (cs.map fun c => c.toMultiset.card).sum := by
  have hfold : ∀ c : Counter String, (cs.foldl Counter.merge c).toMultiset.card =
      c.toMultiset.card + (cs.map fun c => c.toMultiset.card).sum := by
    induction cs with
    | nil => exact fun c => (Nat.add_zero _).symm
    | cons d cs ih =>
        intro c
        rw [List.foldl_cons, ih, Counter.toMultiset_merge, Multiset.card_add, List.map_cons,
          List.sum_cons, Nat.add_assoc]
  rw [hfold]
  exact Nat.zero_add _

end totals

/-- The limit per row is below `2^53`. -/
theorem perRow_lt (conf : SinkConf) : perRow conf < 2 ^ 53 := by
  have hlength := List.length_filter_le (· ∈ conf.tables) allTables
  have hall : allTables.length ≤ 2 ^ 10 := by decide
  unfold perRow
  omega

/-- The times that are sorted are those of batches with rows. -/
theorem mem_durationsOf {reports : List Recorded} {x : ℚ} (hx : x ∈ durationsOf reports) :
    ∃ r ∈ reports, 0 < r.report.inputRows ∧ x = roundPlaces 4 r.seconds := by
  rw [durationsOf, List.mem_mergeSort] at hx
  obtain ⟨r, hr, rfl⟩ := List.mem_map.mp hx
  obtain ⟨hmem, hrows⟩ := List.mem_filter.mp hr
  exact ⟨r, hmem, by simpa using hrows, rfl⟩

/-- The durations are sorted. -/
theorem pairwise_durationsOf (reports : List Recorded) :
    (durationsOf reports).Pairwise (· ≤ ·) := List.pairwise_mergeSort' (· ≤ ·) _

/-- **The summary of a job is sound**, whatever its batches met: the writes are the successes, no
row is counted more often than there are tables, a retried write took at least one retry and no more
than the budget, every retry has its failure, and the percentiles are in order. -/
theorem writeSummary_sound {conf : StreamConf} {reports : List Recorded}
    (h : ∀ r ∈ reports, Reported conf r) :
    (writeSummary reports).Sound conf.sink reports := by
  have hsound : ∀ r ∈ reports, r.report.Sound conf.sink := by
    intro r hr
    obtain ⟨env, mark, batch, out, hout, heq⟩ := h r hr
    rw [heq]
    exact processBatch_report_sound hout
  have hrows : total (fun r => r.agg.rowsWritten + perRow conf.sink * r.unparseable) reports ≤
      total (fun r => perRow conf.sink * r.inputRows) reports :=
    total_le fun r hr => (hsound r hr).rows
  rw [total_add, total_mul, total_mul] at hrows
  have hrecords : total (fun r => r.dlq + perRow conf.sink * r.unparseable) reports ≤
      total (fun r => perRow conf.sink * r.inputRows) reports :=
    total_le fun r hr => (hsound r hr).records
  rw [total_add, total_mul, total_mul] at hrecords
  have hretries : total (·.agg.retriesBeforeSuccess) reports =
      total (·.agg.retriedWritesRetries) reports := total_congr fun r hr => (hsound r hr).retries
  have hleast : total (·.agg.retriedWrites) reports ≤
      total (·.agg.retriedWritesRetries) reports := total_le fun r hr => (hsound r hr).least
  have hmost : total (·.agg.retriedWritesRetries) reports ≤
      total (fun r => loopBudget conf.sink * r.agg.retriedWrites) reports :=
    total_le fun r hr => (hsound r hr).most
  rw [total_mul] at hmost
  have hpairwise := pairwise_durationsOf reports
  have hwritten : total (·.agg.rowsWritten) reports = total (·.agg.successes) reports :=
    total_congr fun r hr => (hsound r hr).written
  have hretried : total (·.agg.retriedWrites) reports ≤ total (·.agg.rowsWritten) reports :=
    total_le fun r hr => (hsound r hr).retried
  refine ⟨hwritten, hrows, hrecords, ?_, hretried, ?_, ?_, ?_, ?_,
    ⟨pct_mono hpairwise (by norm_num), pct_mono hpairwise (by norm_num)⟩, ?_⟩
  · -- the amplification
    intro x hx
    by_cases hin : total (·.inputRows) reports ≠ 0
    · have hratio := fun k hk => roundPlaces_ratio (n := 3)
        (a := total (·.agg.rowsWritten) reports) (k := k) hin hk
      obtain rfl : roundPlaces 3 (fl (total (·.agg.rowsWritten) reports /
          total (·.inputRows) reports)) = x := by
        simpa [writeSummary, hin] using hx
      refine ⟨?_, (hratio _ (perRow_lt conf.sink)).1 ?_⟩
      · exact_mod_cast (hratio 0 (by norm_num)).2 (by rw [Nat.zero_mul]; exact Nat.zero_le _)
      · exact (Nat.le_add_right _ _).trans hrows
    · simp [writeSummary, not_not.mp hin] at hx
  · rw [writeSummary]
    dsimp only
    rw [hretries]
    exact hleast
  · rw [writeSummary]
    dsimp only
    rw [hretries]
    exact hmost
  · have hreasons : total (·.agg.retriedWritesRetries) reports ≤
        total (fun r => r.agg.failureReasons.toMultiset.card) reports :=
      total_le fun r hr => (hsound r hr).reasons
    rw [writeSummary]
    dsimp only
    rw [Counter.toMultiset_sortKeys, card_reasons, List.map_map, hretries]
    exact hreasons
  · intro hretried hbudget
    have hne : total (·.agg.retriedWrites) reports ≠ 0 := hretried
    have hratio := fun k hk => roundPlaces_ratio (n := 3)
      (a := total (·.agg.retriedWritesRetries) reports) (k := k) hne hk
    have havg : (writeSummary reports).avgRetriesAmongRetriedWrites =
        roundPlaces 3 (fl (total (·.agg.retriedWritesRetries) reports /
          total (·.agg.retriedWrites) reports)) := if_pos hne
    rw [havg]
    refine ⟨?_, (hratio _ hbudget).1 hmost⟩
    exact_mod_cast (hratio 1 (by norm_num)).2 (by rwa [Nat.one_mul])
  · intro hbatches x hx
    have hlength : (durationsOf reports).length = (writeSummary reports).nonEmptyBatches := by
      rw [durationsOf, List.length_mergeSort, List.length_map]
      rfl
    have hne : durationsOf reports ≠ [] := by
      rw [← List.length_pos_iff, hlength]
      exact Nat.pos_of_ne_zero hbatches
    have hpct : ∃ p, x = pct (durationsOf reports) p := by
      simp only [List.mem_cons, List.not_mem_nil, or_false] at hx
      rcases hx with rfl | rfl | rfl
      · exact ⟨50, rfl⟩
      · exact ⟨95, rfl⟩
      · exact ⟨99, rfl⟩
    obtain ⟨p, rfl⟩ := hpct
    obtain ⟨y, hy, heq⟩ := pct_mem hne p
    obtain ⟨r, hr, hrows, rfl⟩ := mem_durationsOf hy
    exact ⟨r, hr, hrows, heq⟩

/-- A job of one batch, in which every write is retried once. -/
theorem writeSummary_sound_sample :
    ∃ out, processBatch dlqConf quietEnv none [[sampleRow]] = .ok out ∧
      (writeSummary [⟨0, 1, 2, out.report⟩]).Sound dlqConf.sink [⟨0, 1, 2, out.report⟩] := by
  have hroute : route dlqConf none [[sampleRow]] =
      .ok ⟨[[]], [], none, [], [[sampleRow]]⟩ := rfl
  have hrange : ∀ r ∈ [sampleRow], toPython r = .ok () := by
    intro r hr
    obtain rfl := List.mem_singleton.mp hr
    decide
  obtain ⟨out, hout⟩ : ∃ out, processBatch dlqConf quietEnv none [[sampleRow]] = .ok out :=
    exists_processBatch hroute hrange
      (fun _ => flakyEnv_listed) (fun _ => flakyEnv_listed) (fun _ => flakyEnv_listed)
  refine ⟨out, hout, writeSummary_sound fun r hr => ?_⟩
  obtain rfl := List.mem_singleton.mp hr
  exact ⟨quietEnv, none, [[sampleRow]], out, hout, rfl⟩

end TripPipeline.Streaming
