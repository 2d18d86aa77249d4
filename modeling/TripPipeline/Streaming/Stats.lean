import TripPipeline.Streaming.Timeless

/-!
# The stats record against the tally

`writePartition_tally` speaks of the accumulators. This module says it of what the writer hands
out: the records and the stats record it yields, and its log (`Reports`). The one thing a tally
cannot say is how the failure reasons are stored; no reason is stored with a count of zero
(`positive_writeChunk`), so the sorted map of the stats record is determined by the tally
(`Reports.stats_eq`).
-/

namespace TripPipeline.Streaming

open TripPipeline.Common TripPipeline.Lib

/-! ## Counters -/

/-- The integer counters of the stats record that count outcomes. -/
structure SinkCounts where
  rowsWritten : ℕ
  dlqEmitted : ℕ
  validationRejects : ℕ
  retriedWrites : ℕ
  retriedWritesRetries : ℕ
  attempts : ℕ
  successes : ℕ
  failuresExhausted : ℕ
  retriesBeforeSuccess : ℕ

/-- The counters of a payload. -/
def StatsPayload.counts (p : StatsPayload) : SinkCounts :=
  ⟨p.rowsWritten, p.dlqEmitted, p.validationRejects, p.retriedWrites, p.retriedWritesRetries,
    p.retryStats.attempts, p.retryStats.successes, p.retryStats.failuresExhausted,
    p.retryStats.retriesBeforeSuccess⟩

/-- The counters of a tally. -/
def Tally.counts (t : Tally) : SinkCounts :=
  ⟨t.rowsWritten, t.dlqEmitted, t.validationRejects, t.retriedWrites, t.retriedWritesRetries,
    t.attempts, t.successes, t.failuresExhausted, t.retriesBeforeSuccess⟩

/-- Where the rows are does not matter to the counts. -/
@[simp] theorem counts_view (place : ℕ → ℕ) (t : Tally) : (view place t).counts = t.counts := rfl

/-- Where the rows are does not matter to the reasons. -/
@[simp] theorem reasons_view (place : ℕ → ℕ) (t : Tally) : (view place t).reasons = t.reasons := rfl

/-- The stats record in a yielded tuple. -/
def SinkTuple.stats? : SinkTuple → Option StatsPayload
  | .dlq _ _ _ => none
  | .stats p => some p

/-! ## Failure reasons are positive -/

section positive

variable (env : SinkEnv) (conf : SinkConf)

/-- No failure reason has a count of zero. -/
def SinkState.Positive (s : SinkState) : Prop := s.stats.failureReasons.Positive

/-- Counting errors leaves no entry of 0. -/
theorem positive_foldl_name {errors : List Exc} {c : Counter String} (h : c.Positive) :
    (errors.foldl (fun c e => c.add e.name 1) c).Positive :=
  List.foldlRecOn errors _ h fun _ hc e _ => hc.add e.name Nat.one_pos

/-- Building a row leaves no entry of 0. -/
theorem positive_buildRow {ingestedAtMs : ℤ} {acc : SinkState × List Work} (h : acc.1.Positive)
    (item : StreamRow × ℕ) : (buildRow env conf ingestedAtMs acc item).1.Positive := by
  unfold buildRow
  split
  · unfold SinkState.sample
    dsimp only
    split_ifs <;> exact h
  · split_ifs <;> exact h

/-- The fast path leaves no entry of 0. -/
theorem positive_fastPath {acc : SinkState × List (Work × Exc)} (h : acc.1.Positive) (w : Work) :
    (fastPath env acc w).1.Positive := by
  unfold fastPath
  cases env.outcome w.pos w.stmt.key 0 with
  | ok u => exact h
  | error e => exact Counter.Positive.add h e.name Nat.one_pos

/-- The retry path leaves no entry of 0. -/
theorem positive_retryPath {s s' : SinkState} {f : Work × Exc}
    (h : retryPath env conf s f = .ok s') (hs : s.Positive) : s'.Positive := by
  obtain ⟨w, e⟩ := f
  have hmerged : (s.stats.failureReasons.merge
      ((retryTrial env conf w).errors.foldl (fun c e => c.add e.name 1)
        RetryStats.init.failureReasons)).Positive :=
    Counter.Positive.merge hs (positive_foldl_name Counter.positive_empty)
  unfold retryPath at h
  by_cases hperm : e.isInstance permanent = true
  · simp only [hperm, if_true, Except.ok.injEq] at h
    exact h ▸ hs
  · simp only [hperm, Bool.false_eq_true, if_false, callWithRetry_execute] at h
    cases hresult : (retryTrial env conf w).result (attemptBudget (retryPolicy conf.retry)) 0 with
    | raised x => simp [hresult] at h
    | returned u =>
        simp only [hresult, Except.ok.injEq] at h
        exact h ▸ hmerged
    | exhausted attempts last =>
        simp only [hresult, Except.ok.injEq] at h
        exact h ▸ hmerged

/-- A chunk leaves no entry of 0. -/
theorem positive_writeChunk {s s' : SinkState} {chunk : List (StreamRow × ℕ)}
    (h : writeChunk env conf s chunk = .ok s') (hs : s.Positive) : s'.Positive := by
  have hbuilt : (chunk.foldl (buildRow env conf (chunkTime env chunk)) (s, [])).1.Positive := by
    have hstep := List.foldlRecOn (motive := fun acc : SinkState × List Work => acc.1.Positive)
      chunk (buildRow env conf (chunkTime env chunk)) (b := (s, [])) hs
      fun acc hacc item _ => positive_buildRow env conf hacc item
    exact hstep
  unfold writeChunk at h
  generalize chunk.foldl (buildRow env conf (chunkTime env chunk)) (s, []) = built at h hbuilt
  obtain ⟨s₁, work⟩ := built
  dsimp only at h hbuilt
  split_ifs at h
  · exact Except.ok.inj h ▸ hbuilt
  · have hfast : (work.foldl (fastPath env) (s₁, [])).1.Positive := by
      have hstep := List.foldlRecOn (motive := fun acc : SinkState × List (Work × Exc) =>
        acc.1.Positive) work (fastPath env) (b := (s₁, [])) hbuilt
        fun acc hacc w _ => positive_fastPath env hacc w
      exact hstep
    exact foldlM_rec (P := fun _ t => t.Positive) h hfast
      fun _ f _ _ ht hstep => positive_retryPath env conf hstep ht

end positive

/-! ## What a run hands out -/

/-- The run hands out what the tally says. -/
structure Reports (run : PartitionRun) (t : Tally) : Prop where
  /-- There is one stats record, and it has the counts. -/
  stats : ∃ p : StatsPayload, run.yields.filterMap SinkTuple.stats? = [p] ∧ p.counts = t.counts ∧
    ∃ c : Counter String, p.retryStats.failureReasons = c.sortKeys ∧ c.Positive ∧
      c.toMultiset = t.reasons
  records : (run.yields.filterMap SinkTuple.record? : Multiset _) = t.quarantined
  executions : (run.log : Multiset Execution) = t.executions

section reports

variable {env : SinkEnv} {conf : SinkConf} {rows : List StreamRow} {run : PartitionRun}

/-- **A run that ends normally hands out the sum of the tallies of its rows.** -/
theorem reports_of_run (h : writePartition env conf rows = .ok run) :
    Reports run ((chunks conf rows).map (chunkTally env conf)).sum := by
  obtain ⟨s, hrun, hsettles, htally⟩ := writePartition_tally env conf h
  obtain ⟨s', hs', hrun'⟩ := bind_eq_ok_iff.mp h
  have hpositive : s'.Positive := foldlM_rec (P := fun _ t => t.Positive) hs' Counter.positive_empty
    fun _ _ _ _ ht hstep => positive_writeChunk env conf hstep ht
  obtain ⟨hyields, hlog⟩ := PartitionRun.mk.inj ((Except.ok.inj hrun').trans hrun)
  have hpayload : s'.payload = s.payload := by
    have hlast := congrArg List.getLast? hyields
    simpa using hlast
  have hothers := (balanced_total env conf hsettles).others
  rw [← htally] at hothers ⊢
  have hnone : s.yields.filterMap SinkTuple.stats? = [] := by
    rw [List.filterMap_eq_nil_iff]
    intro y hy
    have hdlq := (card_quarantined hothers).2 y hy
    cases y with
    | dlq o key value => rfl
    | stats p => cases hdlq
  subst hrun
  refine ⟨⟨s.payload, ?_, rfl, s'.stats.failureReasons, ?_, hpositive, ?_⟩, ?_, rfl⟩
  · rw [List.filterMap_append, hnone]
    rfl
  · rw [← hpayload]
    rfl
  · have hreasons := congrArg (fun p : StatsPayload => p.retryStats.failureReasons.toMultiset)
      hpayload
    simp only [SinkState.payload, RetryStats.asDict, Counter.toMultiset_sortKeys] at hreasons
    exact hreasons
  · rw [List.filterMap_append]
    exact congrArg _ (List.append_nil _)

end reports

/-- **The counts of a stats record depend on the tally only.** -/
theorem Reports.stats_eq {run run' : PartitionRun} {t t' : Tally} (h : Reports run t)
    (h' : Reports run' t') (hcounts : t.counts = t'.counts) (hreasons : t.reasons = t'.reasons) :
    ∃ p p', run.yields.filterMap SinkTuple.stats? = [p] ∧
      run'.yields.filterMap SinkTuple.stats? = [p'] ∧ p.counts = p'.counts ∧
      p.retryStats.failureReasons = p'.retryStats.failureReasons := by
  obtain ⟨p, hp, hpcounts, c, hc, hcpos, hcreasons⟩ := h.stats
  obtain ⟨p', hp', hpcounts', c', hc', hcpos', hcreasons'⟩ := h'.stats
  refine ⟨p, p', hp, hp', ?_, ?_⟩
  · rw [hpcounts, hpcounts', hcounts]
  · rw [hc, hc']
    apply Counter.sortKeys_eq (fun _ _ _ => String.le_trans) String.le_total
      (fun _ _ => String.le_antisymm) hcpos hcpos'
    rw [hcreasons, hcreasons', hreasons]

end TripPipeline.Streaming
