import TripPipeline.Streaming.Routing

/-!
# Recomputing the outcomes of a batch

The outcomes of a batch are read by three actions, and a partition that is not cached when an action
reads it is evaluated again, with other outcomes. The decision to write the DLQ is taken on the
second reading, the records written come from the third.

* **Soundness of a block** (`Block.Sound`): whatever is cached is the result of an evaluation that
  ended normally. Reading preserves it (`read_sound`, `readAll_sound`).
* **Recomputation is safe** (`processBatch_recompute`): when a batch ends normally, a row handed to
  the partition writer has been written in full by some evaluation, or a record of it was written to
  the DLQ topic.
* **Progress** (`exists_processBatch`): a batch ends normally when every failure is retryable or
  permanent.
-/

namespace TripPipeline.Streaming

open TripPipeline.Common TripPipeline.Lib

/-! ## Blocks -/

/-- `run` is the result of an evaluation of the block. -/
def Block.Evaluated (conf : SinkConf) (b : Block) (run : PartitionRun) : Prop :=
  run ∈ b.evaluations ∧ ∃ env, writePartition env conf b.rows = .ok run

/-- What is cached is the result of an evaluation. -/
def Block.Sound (conf : SinkConf) (b : Block) : Prop :=
  ∀ run, b.cached = some run → b.Evaluated conf run

section reading

variable {conf : SinkConf}

/-- A reading gives the result of an evaluation, and leaves a sound block. -/
theorem read_sound {a : Access} {b : Block} {r : PartitionRun × Block} (hb : b.Sound conf)
    (h : b.read conf a = .ok r) : r.2.Sound conf ∧ r.2.Evaluated conf r.1 := by
  unfold Block.read at h
  dsimp only at h
  split at h
  · -- the cached result
    rename_i run hcached
    obtain rfl := Except.ok.inj h
    have hrun : b.cached = some run := by
      by_cases hlost : a.lost = true
      · rw [if_pos hlost] at hcached
        cases hcached
      · rw [if_neg hlost] at hcached
        exact hcached
    exact ⟨hb, hb run hrun⟩
  · -- a new evaluation
    obtain ⟨run, hrun, h⟩ := bind_eq_ok_iff.mp h
    obtain rfl := Except.ok.inj h
    have hnew : Block.Evaluated conf
        { b with
          cached := some run
          evaluations := b.evaluations ++
            (a.discarded.filterMap fun env => (writePartition env conf b.rows).toOption) ++ [run] }
        run := by
      refine ⟨?_, a.env, hrun⟩
      exact List.mem_append_right _ (List.mem_singleton_self run)
    refine ⟨?_, hnew⟩
    intro run' hrun'
    obtain rfl := Option.some.inj hrun'
    exact hnew

/-- Reading all partitions gives sound blocks, each evaluated for its read. -/
theorem readAll_sound {access : ℕ → Access} {blocks : List Block}
    {reads : List (PartitionRun × Block)} (hb : ∀ b ∈ blocks, b.Sound conf)
    (h : readAll conf access blocks = .ok reads) :
    ∀ r ∈ reads, r.2.Sound conf ∧ r.2.Evaluated conf r.1 := by
  intro r hr
  obtain ⟨b, hmem, hread⟩ := exists_of_mem_mapM h hr
  exact read_sound (hb b.1 (List.fst_mem_of_mem_zipIdx hmem)) hread

/-- The blocks an action leaves behind are sound. -/
theorem readAll_blocks_sound {access : ℕ → Access} {blocks : List Block}
    {reads : List (PartitionRun × Block)} (hb : ∀ b ∈ blocks, b.Sound conf)
    (h : readAll conf access blocks = .ok reads) : ∀ b ∈ reads.map Prod.snd, b.Sound conf := by
  intro b hmem
  obtain ⟨r, hr, rfl⟩ := List.mem_map.mp hmem
  exact (readAll_sound hb h r hr).1

end reading

/-- A `dlq` tuple of an action's result is among its `dlq` rows. -/
theorem mem_dlqRows {runs : List PartitionRun} {run : PartitionRun} {o : Origin} {key : PyVal}
    {value : DLQRecord} (hrun : run ∈ runs) (h : SinkTuple.dlq o key value ∈ run.yields) :
    (key, value) ∈ dlqRows runs :=
  List.mem_filterMap.mpr ⟨_, List.mem_flatMap.mpr ⟨run, hrun, h⟩, rfl⟩

/-- The blocks of a batch before the first action. -/
theorem sound_start (conf : SinkConf) (good : Frame) :
    ∀ b ∈ good.map fun rows => (⟨rows, none, []⟩ : Block), b.Sound conf := by
  intro b hb run hrun
  obtain ⟨rows, -, rfl⟩ := List.mem_map.mp hb
  cases hrun

/-! ## Recomputation is safe -/

/-- A record of the row was written to the DLQ topic. -/
def QuarantineWritten (out : BatchRun) (b : Block) (item : StreamRow × ℕ) : Prop :=
  ∃ run ∈ b.evaluations, ∃ o key value codec, SinkTuple.dlq o key value ∈ run.yields ∧
    o.row = item.2 ∧ value.originalPayload = rowJson codec item.1 ∧
      (⟨key, value.asdict⟩ : DlqMessage) ∈ out.dlq

/-- The partitions handed to the writer are those the batch is routed to. -/
theorem blocks_of_processBatch {conf : StreamConf} {env : BatchEnv} {maxEventMs : Option ℤ}
    {batch : Frame} {out : BatchRun} (h : processBatch conf env maxEventMs batch = .ok out) :
    out.blocks.map Block.rows = out.routes.good := by
  by_cases hrows : batch.count = 0
  · obtain ⟨-, hroutes, hblocks⟩ := processBatch_empty h hrows
    rw [hroutes, hblocks]
    rfl
  · exact (processBatch_completed h hrows).blocks_rows

/-- A row handed to the writer is written in full by an evaluation of its partition, or a record of
it is written to the DLQ topic. -/
theorem settled_of_processBatch {conf : StreamConf} {env : BatchEnv} {maxEventMs : Option ℤ}
    {batch : Frame} {out : BatchRun} (h : processBatch conf env maxEventMs batch = .ok out)
    {b : Block} (hb : b ∈ out.blocks) {item : StreamRow × ℕ} (hitem : item ∈ b.rows.zipIdx) :
    (∃ run ∈ b.evaluations, FullyWritten conf.sink run item) ∨ QuarantineWritten out b item := by
  by_cases hrows : batch.count = 0
  · obtain ⟨-, -, hblocks⟩ := processBatch_empty h hrows
    rw [hblocks] at hb
    cases hb
  obtain ⟨collected, counted, hcollected, hcounted, hsave⟩ :=
    (processBatch_completed h hrows).actions
  have hsound₁ := readAll_blocks_sound (sound_start conf.sink out.routes.good) hcollected
  have hsound₂ := readAll_blocks_sound hsound₁ hcounted
  rcases hsave with ⟨hnone, -, hblocks⟩ | ⟨saved, hsaved, hdlq, hblocks⟩
  · -- the second reading found no record: its evaluations wrote every row
    rw [hblocks] at hb
    obtain ⟨r, hr, rfl⟩ := List.mem_map.mp hb
    obtain ⟨hmem, senv, hrun⟩ := (readAll_sound hsound₁ hcounted r hr).2
    rcases written_or_quarantined senv conf.sink hrun hitem with hwritten | ⟨o, key, value, hdlq, -⟩
    · exact Or.inl ⟨r.1, hmem, hwritten⟩
    · have habsurd := mem_dlqRows (List.mem_map_of_mem (f := Prod.fst) hr) hdlq
      rw [hnone] at habsurd
      cases habsurd
  · -- the third reading decides what is written
    rw [hblocks] at hb
    obtain ⟨r, hr, rfl⟩ := List.mem_map.mp hb
    obtain ⟨hmem, senv, hrun⟩ := (readAll_sound hsound₂ hsaved r hr).2
    rcases written_or_quarantined senv conf.sink hrun hitem with
      hwritten | ⟨o, key, value, hyield, hrow, hpayload⟩
    · exact Or.inl ⟨r.1, hmem, hwritten⟩
    · refine Or.inr ⟨r.1, hmem, o, key, value, senv.codec, hyield, hrow, hpayload, ?_⟩
      rw [hdlq]
      refine List.mem_append_right _ (List.mem_map.mpr ⟨(key, value), ?_, rfl⟩)
      exact mem_dlqRows (List.mem_map_of_mem (f := Prod.fst) hr) hyield

/-- **Recomputation is safe**: whatever is cached, lost or evaluated again, when the batch ends
normally every row handed to the partition writer has been written in full by an evaluation of its
partition, or a record of it was written to the DLQ topic. The rows handed to it are those the batch
is routed to. -/
theorem processBatch_recompute {conf : StreamConf} {env : BatchEnv} {maxEventMs : Option ℤ}
    {batch : Frame} {out : BatchRun} (h : processBatch conf env maxEventMs batch = .ok out) :
    (batch.count ≠ 0 → route conf maxEventMs batch = .ok out.routes) ∧
      out.blocks.map Block.rows = out.routes.good ∧
      ∀ b ∈ out.blocks, ∀ item ∈ b.rows.zipIdx,
        (∃ run ∈ b.evaluations, FullyWritten conf.sink run item) ∨
          QuarantineWritten out b item :=
  ⟨fun hrows => (processBatch_completed h hrows).routed, blocks_of_processBatch h,
    fun _ hb _ hitem => settled_of_processBatch h hb hitem⟩

/-! ## Progress -/

/-- Reading all partitions returns when their sinks raise only what is listed. -/
theorem exists_readAll (conf : SinkConf) {access : ℕ → Access} (h : ∀ p, (access p).env.Listed)
    (blocks : List Block) : ∃ reads, readAll conf access blocks = .ok reads := by
  refine exists_mapM_eq_ok fun b _ => ?_
  unfold Block.read
  dsimp only
  split
  · exact ⟨_, rfl⟩
  · have hsettle : ∀ chunk ∈ chunks conf b.1.rows, ∀ item ∈ chunk,
        RowSettles (access b.2).env conf (chunkTime (access b.2).env chunk) item :=
      fun chunk _ item _ => rowSettles_of_listed (access b.2).env conf (h b.2) _ item
    obtain ⟨run, hrun⟩ := writePartition_of_settles (access b.2).env conf hsettle
    rw [hrun]
    exact ⟨_, rfl⟩

/-- **Progress**: a batch ends normally when it can be routed, its timestamps are in range and every
failure is retryable or permanent. -/
theorem exists_processBatch {conf : StreamConf} {env : BatchEnv} {maxEventMs : Option ℤ}
    {batch : Frame} {routes : Routes} (hroute : route conf maxEventMs batch = .ok routes)
    (hrange : ∀ r ∈ routes.good.rows, toPython r = .ok ())
    (hcollect : ∀ p, (env.collectStats p).env.Listed)
    (hcount : ∀ p, (env.countDlq p).env.Listed) (hsave : ∀ p, (env.saveDlq p).env.Listed) :
    ∃ out, processBatch conf env maxEventMs batch = .ok out := by
  by_cases hrows : batch.count = 0
  · exact ⟨_, if_pos hrows⟩
  obtain ⟨collected, hcollected⟩ := exists_readAll conf.sink hcollect
    (routes.good.map fun rows => ⟨rows, none, []⟩)
  obtain ⟨counted, hcounted⟩ := exists_readAll conf.sink hcount (collected.map Prod.snd)
  obtain ⟨saved, hsaved⟩ := exists_readAll conf.sink hsave (counted.map Prod.snd)
  have hpython : routes.good.rows.forM toPython = .ok () := forM_eq_ok_iff.mpr hrange
  rw [processBatch, if_neg hrows, hroute]
  simp only [bind, Except.bind, hpython, hcollected, hcounted, hsaved]
  split_ifs
  · exact ⟨_, rfl⟩
  · exact ⟨_, rfl⟩

/-- The cache is lost before every action; the second action sees every statement refused. -/
def lossyEnv : BatchEnv :=
  { quietEnv with
    countDlq := fun _ => ⟨true, [flakyEnv], refusingEnv⟩
    saveDlq := fun _ => ⟨true, [], flakyEnv⟩ }

/-- The general result at a partition that is lost and evaluated again. -/
theorem processBatch_recompute_lossy :
    ∃ out, processBatch dlqConf lossyEnv none [[sampleRow]] = .ok out ∧
      (Frame.count [[sampleRow]] ≠ 0 → route dlqConf none [[sampleRow]] = .ok out.routes) ∧
      out.blocks.map Block.rows = out.routes.good ∧
        ∀ b ∈ out.blocks, ∀ item ∈ b.rows.zipIdx,
          (∃ run ∈ b.evaluations, FullyWritten dlqConf.sink run item) ∨
            QuarantineWritten out b item := by
  have hroute : route dlqConf none [[sampleRow]] =
      .ok ⟨[[]], [], none, [], [[sampleRow]]⟩ := rfl
  have hrange : ∀ r ∈ [sampleRow], toPython r = .ok () := by
    intro r hr
    obtain rfl := List.mem_singleton.mp hr
    decide
  have hrun : ∃ out, processBatch dlqConf lossyEnv none [[sampleRow]] = .ok out :=
    exists_processBatch hroute hrange
      (fun _ => flakyEnv_listed) (fun _ => refusingEnv_listed) (fun _ => flakyEnv_listed)
  obtain ⟨out, hout⟩ := hrun
  exact ⟨out, hout, processBatch_recompute hout⟩

end TripPipeline.Streaming
