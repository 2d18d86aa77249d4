import TripPipeline.Common.PyJson
import TripPipeline.Streaming.Batch
import TripPipeline.Streaming.Stats

/-!
# The stats rows and their merge

The stats record of a partition is yielded as JSON text, and `_merge_stats` adds up what it reads of
the texts, key by key. `mergeRows` is that function on Python dictionaries; `mergeStats` is what it
does to the records.

* `reads_text`: what the merge reads of a text is what the record says (`Reads`).
* `mergeObject_holds`: one turn adds a record, key by key and reason by reason.
* `mergeRows_holds`: so the dictionary at the end holds what `mergeStats` says (`Holds`).

Of the numbers in JSON only this is used: a `float` that was written is read as a `float`. The sum
of the backoff times is a `float`, and the only number here that is not followed.
-/

namespace TripPipeline.Streaming

open TripPipeline.Common TripPipeline.Lib

/-! ## Numbers -/

/-- The value of a finite number. -/
def numberOf : PyVal → Except Exc ℚ
  | .int n => .ok n
  | .float x => .ok x
  | _ => .error ⟨"TypeError", "unsupported operand type(s)", [.typeError]⟩

/-- `a + b` of finite numbers: an `int` only of two of them. -/
def pyAdd : PyVal → PyVal → Except Exc PyVal
  | .int a, .int b => .ok (.int (a + b))
  | a, b => do .ok (.float (fl (fl (← numberOf a) + fl (← numberOf b))))

/-- `max(a, b)` of finite numbers. -/
def pyMax (a b : PyVal) : Except Exc PyVal := do
  .ok (if (← numberOf a) < (← numberOf b) then b else a)

/-- `d.get(k, 0)`. -/
def getZero (d : Dict) (k : String) : PyVal := (d.lookup k).getD (.int 0)

/-- A value that is used as a `dict`. -/
def asObject : PyVal → Except Exc Dict
  | .dict kvs => .ok kvs
  | _ => .error ⟨"AttributeError", "object has no attribute 'get'", [.attributeError]⟩

/-- A dict is read as an object. -/
theorem asObject_dict (kvs : Dict) : asObject (.dict kvs) = .ok kvs := rfl

/-! ## The text of a stats record -/

/-- A map of counts. -/
def reasonsDict (c : Counter String) : Dict := c.entries.map fun e => (e.1, .int e.2)

/-- Source: `common/retry.py` `RetryStats.as_dict` -/
def RetryStatsDict.toDict (d : RetryStatsDict) : Dict :=
  [("attempts", .int d.attempts),
   ("successes", .int d.successes),
   ("failures_exhausted", .int d.failuresExhausted),
   ("retries_before_success", .int d.retriesBeforeSuccess),
   ("avg_retries_to_success", .float d.avgRetriesToSuccess),
   ("total_backoff_ms", .float d.totalBackoffMs),
   ("failure_reasons", .dict (reasonsDict d.failureReasons))]

/-- The `payload` of the stats tuple. `seconds` is the rounded time the partition took.
Source: `streaming/cassandra_sink.py` `write_partition` -/
def StatsPayload.toDict (p : StatsPayload) (seconds : ℚ) : Dict :=
  [("rows_written", .int p.rowsWritten),
   ("dlq_emitted", .int p.dlqEmitted),
   ("validation_rejects", .int p.validationRejects),
   ("retried_writes", .int p.retriedWrites),
   ("retried_writes_retries", .int p.retriedWritesRetries),
   ("latency_sum_ms", .int p.latencySumMs),
   ("latency_count", .int p.latencyCount),
   ("latency_max_ms", .int p.latencyMaxMs),
   ("partition_seconds", .float seconds),
   ("retry_stats", .dict (RetryStatsDict.toDict p.retryStats))]

/-- `json.dumps(payload, separators=(",", ":"))`. -/
def statsText (codec : JsonCodec) (p : StatsPayload) (seconds : ℚ) : String :=
  codec.dumps (p.toDict seconds)

/-! ## The merge -/

/-- The keys of the first loop of `_merge_stats`. -/
def sumKeys : List String :=
  ["rows_written", "dlq_emitted", "validation_rejects", "retried_writes", "retried_writes_retries",
   "latency_sum_ms", "latency_count"]

/-- The keys of the loop over `retry_stats`. -/
def retryKeys : List String :=
  ["attempts", "successes", "failures_exhausted", "retries_before_success", "total_backoff_ms"]

/-- `agg` at the start. -/
def emptyAgg : Dict :=
  [("rows_written", .int 0), ("dlq_emitted", .int 0), ("validation_rejects", .int 0),
   ("retried_writes", .int 0), ("retried_writes_retries", .int 0),
   ("latency_sum_ms", .int 0), ("latency_count", .int 0), ("latency_max_ms", .int 0),
   ("attempts", .int 0), ("successes", .int 0), ("failures_exhausted", .int 0),
   ("retries_before_success", .int 0), ("total_backoff_ms", .float 0),
   ("failure_reasons", .dict [])]

/-- `agg[k] += p.get(k, 0)`. -/
def addKey (p agg : Dict) (k : String) : Except Exc Dict := do
  .ok (Dict.set k (← pyAdd (← Dict.item agg k) (getZero p k)) agg)

/-- `reasons[reason] = reasons.get(reason, 0) + n`. -/
def addReason (reasons : Dict) (e : String × PyVal) : Except Exc Dict := do
  .ok (Dict.set e.1 (← pyAdd (getZero reasons e.1) e.2) reasons)

/-- One turn of the loop of `_merge_stats`, on a decoded value. -/
def mergeObject (agg p : Dict) : Except Exc Dict := do
  let agg ← sumKeys.foldlM (addKey p) agg
  let latency ← pyMax (← Dict.item agg "latency_max_ms") (getZero p "latency_max_ms")
  let agg := Dict.set "latency_max_ms" latency agg
  let rs ← asObject ((p.lookup "retry_stats").getD (.dict []))
  let agg ← retryKeys.foldlM (addKey rs) agg
  let reasons ← asObject ((Dict.get rs "failure_reasons").orElse (.dict []))
  let merged ← reasons.foldlM addReason (← asObject (← Dict.item agg "failure_reasons"))
  .ok (Dict.set "failure_reasons" (.dict merged) agg)

/-- One turn of the loop, on a row. -/
def mergeRow (codec : JsonCodec) (agg : Dict) (value : String) : Except Exc Dict :=
  match codec.loads value with
  | some p => do mergeObject agg (← asObject p)
  | none => .error ⟨"JSONDecodeError", "Expecting value", [.valueError]⟩

/-- Source: `streaming/stream_job.py` `TripStream._merge_stats` -/
def mergeRows (codec : JsonCodec) (values : List String) : Except Exc Dict :=
  values.foldlM (mergeRow codec) emptyAgg

/-! ## What is read of a text -/

/-- The counts among the keys of the first loop. -/
def sumFields : List (String × (SinkCounts → ℕ)) :=
  [("rows_written", SinkCounts.rowsWritten), ("dlq_emitted", SinkCounts.dlqEmitted),
   ("validation_rejects", SinkCounts.validationRejects),
   ("retried_writes", SinkCounts.retriedWrites),
   ("retried_writes_retries", SinkCounts.retriedWritesRetries)]

/-- The counts among the keys of the loop over `retry_stats`. -/
def retryFields : List (String × (SinkCounts → ℕ)) :=
  [("attempts", SinkCounts.attempts), ("successes", SinkCounts.successes),
   ("failures_exhausted", SinkCounts.failuresExhausted),
   ("retries_before_success", SinkCounts.retriesBeforeSuccess)]

/-- A decoded stats record. -/
structure Reads (d : Dict) (p : StatsPayload) : Prop where
  sums : ∀ f ∈ sumFields, d.lookup f.1 = some (.int (f.2 p.counts))
  latencySum : d.lookup "latency_sum_ms" = some (.int p.latencySumMs)
  latencyCount : d.lookup "latency_count" = some (.int p.latencyCount)
  latencyMax : d.lookup "latency_max_ms" = some (.int p.latencyMaxMs)
  retry : ∃ rs, d.lookup "retry_stats" = some (.dict rs) ∧
    (∀ f ∈ retryFields, rs.lookup f.1 = some (.int (f.2 p.counts))) ∧
    (∃ x, rs.lookup "total_backoff_ms" = some (.float x)) ∧
    rs.lookup "failure_reasons" = some (.dict (reasonsDict p.retryStats.failureReasons))

/-- The reasons have distinct names. -/
theorem nodup_reasonsDict (c : Counter String) : ((reasonsDict c).map Prod.fst).Nodup := by
  rw [reasonsDict, List.map_map]
  exact c.nodup

section texts

variable {floats : Floats} {other : PyVal → String}

/-- The reasons read back as they are. -/
theorem reread_reasonsDict (c : Counter String) :
    reread floats other (.dict (reasonsDict c)) = .dict (reasonsDict c) := by
  rw [reread_dict (nodup_reasonsDict c), reasonsDict, List.map_map]
  simp only [Function.comp_def, reread_int]

/-- **A stats record is read back.** -/
theorem reads_text (hfloat : ∀ x, ∃ y, reread floats other (.float x) = .float y)
    (p : StatsPayload) (seconds : ℚ) :
    ∃ d, (pyJson floats other).loads (statsText (pyJson floats other) p seconds) = some (.dict d) ∧
      Reads d p := by
  have houter : ((p.toDict seconds).map Prod.fst).Nodup := by simp [StatsPayload.toDict]
  have hinner : ((RetryStatsDict.toDict p.retryStats).map Prod.fst).Nodup := by
    simp [RetryStatsDict.toDict]
  obtain ⟨y, hy⟩ := hfloat p.retryStats.totalBackoffMs
  refine ⟨_, loads_dumps houter, ?_, ?_, ?_, ?_, ?_⟩
  · simp [sumFields, StatsPayload.toDict, Dict.lookup_cons_ite, StatsPayload.counts]
  · simp [StatsPayload.toDict, Dict.lookup_cons_ite]
  · simp [StatsPayload.toDict, Dict.lookup_cons_ite]
  · simp [StatsPayload.toDict, Dict.lookup_cons_ite]
  · refine ⟨(RetryStatsDict.toDict p.retryStats).map fun kv => (kv.1, reread floats other kv.2), ?_,
      ?_, ⟨y, ?_⟩, ?_⟩
    · rw [lookup_reread]
      simp only [StatsPayload.toDict, Dict.lookup_cons_ite]
      exact congrArg some (reread_dict hinner)
    · simp [retryFields, RetryStatsDict.toDict, Dict.lookup_cons_ite, StatsPayload.counts]
    · simp [RetryStatsDict.toDict, Dict.lookup_cons_ite, hy]
    · simp [RetryStatsDict.toDict, Dict.lookup_cons_ite, reread_reasonsDict]

end texts

/-! ## One turn -/

/-- `agg[k] + p.get(k, 0)` is `v`. -/
def Adds (p agg : Dict) (k : String) (v : PyVal) : Prop :=
  ∃ a, agg.lookup k = some a ∧ pyAdd a (getZero p k) = .ok v

/-- Integers under a key are added. -/
theorem adds_int {p agg : Dict} {k : String} {a b : ℤ} (ha : agg.lookup k = some (.int a))
    (hb : p.lookup k = some (.int b)) : Adds p agg k (.int (a + b)) := by
  refine ⟨_, ha, ?_⟩
  rw [getZero, hb]
  rfl

/-- Doubles under a key are added as doubles. -/
theorem adds_float {p agg : Dict} {k : String} {a b : ℚ} (ha : agg.lookup k = some (.float a))
    (hb : p.lookup k = some (.float b)) : Adds p agg k (.float (fl (fl a + fl b))) := by
  refine ⟨_, ha, ?_⟩
  rw [getZero, hb]
  rfl

/-- A loop over distinct keys updates each of them, and nothing else. -/
theorem foldlM_addKey {p : Dict} {ks : List String} (hks : ks.Nodup) {agg : Dict}
    (h : ∀ k ∈ ks, ∃ v, Adds p agg k v) :
    ∃ agg', ks.foldlM (addKey p) agg = .ok agg' ∧
      (∀ k ∈ ks, ∀ v, Adds p agg k v → agg'.lookup k = some v) ∧
      ∀ k ∉ ks, agg'.lookup k = agg.lookup k := by
  induction ks generalizing agg with
  | nil => exact ⟨agg, rfl, fun k hk => absurd hk List.not_mem_nil, fun _ _ => rfl⟩
  | cons k ks ih =>
      obtain ⟨hk, hks⟩ := List.nodup_cons.mp hks
      obtain ⟨v, a, ha, hv⟩ := h k List.mem_cons_self
      have hstep : addKey p agg k = .ok (Dict.set k v agg) := by
        simp [addKey, Dict.item, ha, hv, bind, Except.bind]
      have hother : ∀ k' ∈ ks, (Dict.set k v agg).lookup k' = agg.lookup k' := by
        intro k' hk'
        have hne : k' ≠ k := fun heq => hk (heq ▸ hk')
        rw [Dict.lookup_set, if_neg hne]
      have hadds : ∀ k' ∈ ks, ∀ v', Adds p (Dict.set k v agg) k' v' ↔ Adds p agg k' v' := by
        intro k' hk' v'
        rw [Adds, Adds, hother k' hk']
      obtain ⟨agg', hagg', hin, hout⟩ := ih hks fun k' hk' =>
        (h k' (List.mem_cons_of_mem k hk')).imp fun v' => (hadds k' hk' v').mpr
      refine ⟨agg', foldlM_cons_eq_ok_iff.mpr ⟨_, hstep, hagg'⟩, ?_, ?_⟩
      · intro k' hk' v' hv'
        rcases List.mem_cons.mp hk' with rfl | hk'
        · obtain ⟨a', ha', hsum⟩ := hv'
          rw [ha, Option.some.injEq] at ha'
          rw [← ha', hv, Except.ok.injEq] at hsum
          rw [hout k' hk, Dict.lookup_set, if_pos rfl, hsum]
        · exact hin k' hk' v' ((hadds k' hk' v').mpr hv')
      · intro k' hk'
        obtain ⟨hne, hk'⟩ := not_or.mp (mt List.mem_cons.mpr hk')
        rw [hout k' hk', Dict.lookup_set, if_neg hne]

/-- The count of a reason is a field of the dict. -/
theorem lookup_reasonsDict (c : Counter String) (k : String) :
    getZero (reasonsDict c) k = .int (c.get k) := by
  unfold getZero reasonsDict Counter.get
  induction c.entries with
  | nil => rfl
  | cons e l ih =>
      rw [List.map_cons, Dict.lookup_cons_ite, List.lookup_cons]
      by_cases hk : k = e.1
      · simp [hk]
      · have hb : (k == e.1) = false := by simpa using hk
        rw [if_neg hk, hb]
        exact ih

/-- Setting a reason to a higher count counts it. -/
theorem set_reasonsDict (c : Counter String) (k : String) (n : ℕ) :
    Dict.set k (.int (c.get k + n)) (reasonsDict c) = reasonsDict (c.add k n) := by
  unfold reasonsDict Counter.get Counter.add
  dsimp only
  induction c.entries with
  | nil => simp [Dict.set, bump]
  | cons e l ih =>
      obtain ⟨k', m⟩ := e
      by_cases hk : k' = k
      · simp [Dict.set, bump, hk]
      · have hb : (k == k') = false := by simpa using Ne.symm hk
        simp only [List.map_cons, Dict.set, bump, hk, if_false, List.lookup_cons, hb, ih]

/-- **The loop over the reasons is the merge of counters.** -/
theorem foldlM_addReason (c d : Counter String) :
    (reasonsDict d).foldlM addReason (reasonsDict c) = .ok (reasonsDict (c.merge d)) := by
  unfold Counter.merge
  show ((d.entries.map fun e => (e.1, PyVal.int e.2)).foldlM addReason (reasonsDict c)) = _
  induction d.entries generalizing c with
  | nil => rfl
  | cons e l ih =>
      have hstep : addReason (reasonsDict c) (e.1, .int e.2) =
          .ok (reasonsDict (c.add e.1 e.2)) := by
        simp only [addReason, lookup_reasonsDict, pyAdd, bind, Except.bind, set_reasonsDict]
      rw [List.map_cons, foldlM_cons_eq_ok_iff]
      exact ⟨_, hstep, ih (c.add e.1 e.2)⟩

/-- The counters of an aggregate. -/
def Agg.counts (a : Agg) : SinkCounts :=
  ⟨a.rowsWritten, a.dlqEmitted, a.validationRejects, a.retriedWrites, a.retriedWritesRetries,
    a.attempts, a.successes, a.failuresExhausted, a.retriesBeforeSuccess⟩

/-- The dictionary holds the counters. -/
structure Holds (agg : Dict) (a : Agg) : Prop where
  counts : ∀ f ∈ sumFields ++ retryFields, agg.lookup f.1 = some (.int (f.2 a.counts))
  latencySum : agg.lookup "latency_sum_ms" = some (.int a.latencySumMs)
  latencyCount : agg.lookup "latency_count" = some (.int a.latencyCount)
  latencyMax : agg.lookup "latency_max_ms" = some (.int a.latencyMaxMs)
  backoff : ∃ x, agg.lookup "total_backoff_ms" = some (.float x)
  reasons : agg.lookup "failure_reasons" = some (.dict (reasonsDict a.failureReasons))

/-- The empty aggregate holds nothing. -/
theorem holds_emptyAgg : Holds emptyAgg Agg.empty := by
  refine ⟨?_, rfl, rfl, rfl, ⟨0, rfl⟩, rfl⟩
  intro f hf
  revert f
  simp [sumFields, retryFields, emptyAgg, Dict.lookup_cons_ite, Agg.counts, Agg.empty]

/-- Adding stats adds their counts. -/
theorem counts_addStats {f : String × (SinkCounts → ℕ)} (hf : f ∈ sumFields ++ retryFields)
    (a : Agg) (p : StatsPayload) : f.2 (a.addStats p).counts = f.2 a.counts + f.2 p.counts := by
  revert f
  simp [sumFields, retryFields, Agg.counts, Agg.addStats, StatsPayload.counts]

/-- The sum of two counts, as it is stored. -/
theorem int_counts_addStats {f : String × (SinkCounts → ℕ)} (hf : f ∈ sumFields ++ retryFields)
    (a : Agg) (p : StatsPayload) :
    PyVal.int (f.2 a.counts + f.2 p.counts) = .int (f.2 (a.addStats p).counts) := by
  rw [counts_addStats hf, Nat.cast_add]

/-- The fields that are summed are those the driver sums. -/
theorem mem_sumKeys_of_mem {f : String × (SinkCounts → ℕ)} (hf : f ∈ sumFields) :
    f.1 ∈ sumKeys := by
  revert f
  simp [sumFields, sumKeys]

/-- The retry fields are those the driver sums. -/
theorem mem_retryKeys_of_mem {f : String × (SinkCounts → ℕ)} (hf : f ∈ retryFields) :
    f.1 ∈ retryKeys := by
  revert f
  simp [retryFields, retryKeys]

/-- No key of the first loop is written again. -/
theorem sumKeys_apart {k : String} (hk : k ∈ sumKeys) :
    k ∉ retryKeys ∧ k ≠ "latency_max_ms" ∧ k ≠ "failure_reasons" := by
  revert k
  simp [sumKeys, retryKeys]

/-- No key of the loop over `retry_stats` is written elsewhere. -/
theorem retryKeys_apart {k : String} (hk : k ∈ retryKeys) :
    k ∉ sumKeys ∧ k ≠ "latency_max_ms" ∧ k ≠ "failure_reasons" := by
  revert k
  simp [sumKeys, retryKeys]

section turn

variable {agg d : Dict} {a : Agg} {p : StatsPayload}

/-- The first loop of a turn. -/
theorem turn_sums (hagg : Holds agg a) (hd : Reads d p) :
    ∃ agg', sumKeys.foldlM (addKey d) agg = .ok agg' ∧
      (∀ f ∈ sumFields, agg'.lookup f.1 = some (.int (f.2 (a.addStats p).counts))) ∧
      agg'.lookup "latency_sum_ms" = some (.int (a.addStats p).latencySumMs) ∧
      agg'.lookup "latency_count" = some (.int (a.addStats p).latencyCount) ∧
      ∀ k ∉ sumKeys, agg'.lookup k = agg.lookup k := by
  have hfields : ∀ f ∈ sumFields, Adds d agg f.1 (.int (f.2 (a.addStats p).counts)) := by
    intro f hf
    have hmem : f ∈ sumFields ++ retryFields := List.mem_append_left _ hf
    rw [← int_counts_addStats hmem]
    exact adds_int (hagg.counts f hmem) (hd.sums f hf)
  have hsum := adds_int hagg.latencySum hd.latencySum
  have hcount := adds_int hagg.latencyCount hd.latencyCount
  have hall : ∀ k ∈ sumKeys, ∃ v, Adds d agg k v := by
    have hfields' : ∀ f ∈ sumFields, ∃ v, Adds d agg f.1 v := fun f hf => ⟨_, hfields f hf⟩
    have hsum' : ∃ v, Adds d agg "latency_sum_ms" v := ⟨_, hsum⟩
    have hcount' : ∃ v, Adds d agg "latency_count" v := ⟨_, hcount⟩
    simp only [sumFields, sumKeys, List.forall_mem_cons] at hfields' ⊢
    tauto
  obtain ⟨agg', hagg', hin, hout⟩ := foldlM_addKey (by decide) hall
  refine ⟨agg', hagg', fun f hf => hin f.1 (mem_sumKeys_of_mem hf) _ (hfields f hf), ?_, ?_, hout⟩
  · exact hin _ (by simp [sumKeys]) _ hsum
  · rw [hin _ (by simp [sumKeys]) _ hcount, ← Nat.cast_add]
    rfl

/-- The loop over `retry_stats`. -/
theorem turn_retry {rs : Dict}
    (hagg : ∀ f ∈ retryFields, agg.lookup f.1 = some (.int (f.2 a.counts)))
    (hrs : ∀ f ∈ retryFields, rs.lookup f.1 = some (.int (f.2 p.counts)))
    (hbackoff : ∃ x, agg.lookup "total_backoff_ms" = some (.float x))
    (hbackoff' : ∃ x, rs.lookup "total_backoff_ms" = some (.float x)) :
    ∃ agg', retryKeys.foldlM (addKey rs) agg = .ok agg' ∧
      (∀ f ∈ retryFields, agg'.lookup f.1 = some (.int (f.2 (a.addStats p).counts))) ∧
      (∃ x, agg'.lookup "total_backoff_ms" = some (.float x)) ∧
      ∀ k ∉ retryKeys, agg'.lookup k = agg.lookup k := by
  obtain ⟨x, hx⟩ := hbackoff
  obtain ⟨y, hy⟩ := hbackoff'
  have hfloat := adds_float hx hy
  have hfields : ∀ f ∈ retryFields, Adds rs agg f.1 (.int (f.2 (a.addStats p).counts)) := by
    intro f hf
    rw [← int_counts_addStats (List.mem_append_right _ hf)]
    exact adds_int (hagg f hf) (hrs f hf)
  have hall : ∀ k ∈ retryKeys, ∃ v, Adds rs agg k v := by
    have hfields' : ∀ f ∈ retryFields, ∃ v, Adds rs agg f.1 v := fun f hf => ⟨_, hfields f hf⟩
    have hfloat' : ∃ v, Adds rs agg "total_backoff_ms" v := ⟨_, hfloat⟩
    simp only [retryFields, retryKeys, List.forall_mem_cons] at hfields' ⊢
    tauto
  obtain ⟨agg', hagg', hin, hout⟩ := foldlM_addKey (by decide) hall
  exact ⟨agg', hagg', fun f hf => hin f.1 (mem_retryKeys_of_mem hf) _ (hfields f hf),
    ⟨_, hin "total_backoff_ms" (by simp [retryKeys]) _ hfloat⟩, hout⟩

/-- Python's `max` of two integers. -/
theorem pyMax_int (m n : ℤ) : pyMax (.int m) (.int n) = .ok (.int (max m n)) := by
  simp only [pyMax, numberOf, bind, Except.bind, Int.cast_lt, max_def_lt]
  split_ifs <;> rfl

/-- **One turn adds a record.** -/
theorem mergeObject_holds (hagg : Holds agg a) (hd : Reads d p) :
    ∃ agg', mergeObject agg d = .ok agg' ∧ Holds agg' (a.addStats p) := by
  obtain ⟨agg₁, hsums, hfields₁, hsum₁, hcount₁, hout₁⟩ := turn_sums hagg hd
  obtain ⟨rs, hrs, hrsFields, hrsBackoff, hrsReasons⟩ := hd.retry
  -- the dictionary before the loop over `retry_stats`
  set agg₂ := Dict.set "latency_max_ms" (.int (max a.latencyMaxMs p.latencyMaxMs)) agg₁ with hagg₂
  have hset₂ : ∀ k, k ≠ "latency_max_ms" → agg₂.lookup k = agg₁.lookup k := by
    intro k hne
    rw [hagg₂, Dict.lookup_set, if_neg hne]
  have hcounts₂ : ∀ f ∈ retryFields, agg₂.lookup f.1 = some (.int (f.2 a.counts)) := by
    intro f hf
    obtain ⟨hsum, hmax, -⟩ := retryKeys_apart (mem_retryKeys_of_mem hf)
    rw [hset₂ _ hmax, hout₁ _ hsum, hagg.counts f (List.mem_append_right _ hf)]
  have hbackoff₂ : ∃ x, agg₂.lookup "total_backoff_ms" = some (.float x) := by
    rw [hset₂ _ (by simp), hout₁ _ (by simp [sumKeys])]
    exact hagg.backoff
  obtain ⟨agg₃, hretry, hfields₃, hbackoff₃, hout₃⟩ :=
    turn_retry hcounts₂ hrsFields hbackoff₂ hrsBackoff
  have hreasons₃ : agg₃.lookup "failure_reasons" = some (.dict (reasonsDict a.failureReasons)) := by
    rw [hout₃ _ (by simp [retryKeys]), hset₂ _ (by simp), hout₁ _ (by simp [sumKeys]),
      hagg.reasons]
  -- the dictionary at the end
  set agg₄ := Dict.set "failure_reasons"
    (.dict (reasonsDict (a.failureReasons.merge p.retryStats.failureReasons))) agg₃ with hagg₄
  have hset₄ : ∀ k, k ≠ "failure_reasons" → agg₄.lookup k = agg₃.lookup k := by
    intro k hne
    rw [hagg₄, Dict.lookup_set, if_neg hne]
  have hfirst : ∀ k ∈ sumKeys, agg₄.lookup k = agg₁.lookup k := by
    intro k hk
    obtain ⟨hretry, hmax, hne⟩ := sumKeys_apart hk
    rw [hset₄ k hne, hout₃ k hretry, hset₂ k hmax]
  have hrun : mergeObject agg d = .ok agg₄ := by
    have hlatency : Dict.item agg₁ "latency_max_ms" = .ok (.int a.latencyMaxMs) := by
      rw [Dict.item, hout₁ _ (by simp [sumKeys]), hagg.latencyMax]
    have hlatency' : getZero d "latency_max_ms" = .int p.latencyMaxMs := by
      rw [getZero, hd.latencyMax]
      rfl
    have hitem : Dict.item agg₃ "failure_reasons" =
        .ok (.dict (reasonsDict a.failureReasons)) := by
      rw [Dict.item, hreasons₃]
    have horElse : asObject ((Dict.get rs "failure_reasons").orElse (.dict [])) =
        .ok (reasonsDict p.retryStats.failureReasons) := by
      rw [Dict.get, hrsReasons, Option.getD_some, PyVal.orElse]
      cases reasonsDict p.retryStats.failureReasons <;> rfl
    simp only [mergeObject, hsums, hlatency, hlatency', pyMax_int, ← hagg₂, hrs, Option.getD_some,
      asObject_dict, hretry, horElse, hitem, foldlM_addReason, bind, Except.bind, ← hagg₄]
  refine ⟨agg₄, hrun, ?_, ?_, ?_, ?_, ?_, ?_⟩
  · intro f hf
    rcases List.mem_append.mp hf with hf | hf
    · rw [hfirst _ (mem_sumKeys_of_mem hf), hfields₁ f hf]
    · rw [hset₄ _ (retryKeys_apart (mem_retryKeys_of_mem hf)).2.2, hfields₃ f hf]
  · rw [hfirst _ (by simp [sumKeys]), hsum₁]
  · rw [hfirst _ (by simp [sumKeys]), hcount₁]
  · rw [hset₄ _ (by simp), hout₃ _ (by simp [retryKeys]), hagg₂, Dict.lookup_set, if_pos rfl]
    rfl
  · rw [hset₄ _ (by simp)]
    exact hbackoff₃
  · rw [hagg₄, Dict.lookup_set, if_pos rfl]
    rfl

end turn

/-! ## The merge of all texts -/

section merge

variable {floats : Floats} {other : PyVal → String}

/-- A text of a stats record. -/
def Says (floats : Floats) (other : PyVal → String) (text : String) (p : StatsPayload) : Prop :=
  ∃ seconds, text = statsText (pyJson floats other) p seconds

/-- Merging a text that says these stats adds them. -/
theorem mergeRow_holds (hfloat : ∀ x, ∃ y, reread floats other (.float x) = .float y) {agg : Dict}
    {a : Agg} {text : String} {p : StatsPayload} (hagg : Holds agg a)
    (h : Says floats other text p) :
    ∃ agg', mergeRow (pyJson floats other) agg text = .ok agg' ∧ Holds agg' (a.addStats p) := by
  obtain ⟨seconds, rfl⟩ := h
  obtain ⟨d, hd, hreads⟩ := reads_text hfloat p seconds
  obtain ⟨agg', hagg', hholds⟩ := mergeObject_holds hagg hreads
  refine ⟨agg', ?_, hholds⟩
  rw [mergeRow, hd]
  exact hagg'

/-- **The merge of the texts holds the merge of the records.** -/
theorem mergeRows_holds (hfloat : ∀ x, ∃ y, reread floats other (.float x) = .float y)
    {texts : List String} {records : List StatsPayload}
    (h : List.Forall₂ (Says floats other) texts records) :
    ∃ agg, mergeRows (pyJson floats other) texts = .ok agg ∧ Holds agg (mergeStats records) := by
  have hloop : ∀ (agg : Dict) (a : Agg), Holds agg a →
      ∃ agg', texts.foldlM (mergeRow (pyJson floats other)) agg = .ok agg' ∧
        Holds agg' (records.foldl Agg.addStats a) := by
    induction h with
    | nil => exact fun agg a hagg => ⟨agg, rfl, hagg⟩
    | cons hsays _ ih =>
        intro agg a hagg
        obtain ⟨agg₁, hstep, hholds⟩ := mergeRow_holds hfloat hagg hsays
        obtain ⟨agg', hrest, hholds'⟩ := ih agg₁ _ hholds
        exact ⟨agg', foldlM_cons_eq_ok_iff.mpr ⟨agg₁, hstep, hrest⟩, hholds'⟩
  exact hloop emptyAgg Agg.empty holds_emptyAgg

end merge

end TripPipeline.Streaming
