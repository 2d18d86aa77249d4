import TripPipeline.Streaming.Recompute

/-!
# The envelopes a batch writes

What stands in the DLQ messages of a batch, whatever is evaluated again.

* **The writer's records** (`writePartition_records`): a yielded record is the `sinkRecord` of one
  of its rows. `records` is closed under sums, so this is read off the tallies.
* **The batch's messages** (`processBatch_envelope`): every message written to `trips.dlq` has the
  payload of a row of the batch, and its `replay_count` is 0, whatever the row has been through.
* **A batch whose writes fail** (`processBatch_failing`): when no execution succeeds, every row that
  can be built leaves a `cassandra_sink` message.
-/

namespace TripPipeline.Streaming

open TripPipeline.Common TripPipeline.Lib

/-! ## The writer's records -/

/-- The tuple is a record of one of the rows. -/
def RecordOf (rows : List StreamRow) (key : PyVal) (value : DLQRecord) : Prop :=
  ∃ r ∈ rows, ∃ env conf o reason stage retryCount,
    value = sinkRecord env conf o r reason stage retryCount ∧ key = value.key

section records

variable (env : SinkEnv) (conf : SinkConf)

/-- Tallies whose records are records of the rows: closed under sums. -/
def records (rows : List StreamRow) : AddSubmonoid Tally where
  carrier := {t | ∀ q ∈ t.quarantined, RecordOf rows q.2.1 q.2.2}
  zero_mem' := by
    intro q hq
    exact absurd hq (Multiset.notMem_zero q)
  add_mem' := by
    intro a b ha hb q hq
    rw [Tally.add_quarantined, Multiset.mem_add] at hq
    rcases hq with hq | hq
    · exact ha q hq
    · exact hb q hq

variable {rows : List StreamRow}

/-- A tally without records is about any rows. -/
theorem records_of_no_record {t : Tally} (h : t.quarantined = 0) : t ∈ records rows := by
  intro q hq
  rw [h] at hq
  exact absurd hq (Multiset.notMem_zero q)

/-- Quarantining a row leaves a record about it. -/
theorem records_quarantineTally {r : StreamRow} (hr : r ∈ rows) (o : Origin)
    (reason stage : String) (retryCount : ℕ) :
    quarantineTally env conf o r reason stage retryCount ∈ records rows := by
  intro q hq
  obtain rfl := Multiset.mem_singleton.mp hq
  exact ⟨r, hr, env, conf, o, reason, stage, retryCount, rfl, rfl⟩

/-- The retry path leaves records about its row. -/
theorem records_lateTally {f : Work × Exc} (hf : f.1.row ∈ rows) :
    lateTally env conf f ∈ records rows := by
  unfold lateTally
  split_ifs
  · exact records_quarantineTally env conf hf _ _ _ _
  · apply (records rows).add_mem
    · exact records_of_no_record rfl
    · unfold exhaustedTally
      split
      · exact records_quarantineTally env conf hf _ _ _ _
      · exact (records rows).zero_mem

/-- A statement leaves records about its row. -/
theorem records_stmtTally {w : Work} (hw : w.row ∈ rows) : stmtTally env conf w ∈ records rows := by
  apply (records rows).add_mem
  · apply records_of_no_record
    unfold fastTally
    split <;> rfl
  · rcases hfail : failure? env w with _ | f
    · exact (records rows).zero_mem
    · rw [← failure?_fst hfail] at hw
      exact records_lateTally env conf hw

/-- A row leaves records about it. -/
theorem records_rowTally {item : StreamRow × ℕ} (hitem : item.1 ∈ rows) (ingestedAtMs : ℤ) :
    rowTally env conf ingestedAtMs item ∈ records rows := by
  apply (records rows).add_mem
  · unfold buildTally
    split
    · exact (records rows).zero_mem
    · split_ifs
      · apply (records rows).add_mem
        · exact records_quarantineTally env conf hitem _ _ _ _
        · exact records_of_no_record rfl
      · exact records_quarantineTally env conf hitem _ _ _ _
  · apply (records rows).list_sum_mem
    intro t ht
    obtain ⟨w, hw, rfl⟩ := List.mem_map.mp ht
    apply records_stmtTally
    unfold rowWork at hw
    split at hw
    · obtain ⟨st, -, rfl⟩ := List.mem_map.mp hw
      exact hitem
    · cases hw

/-- **Every yielded record is the record of a row.** -/
theorem writePartition_records {run : PartitionRun} (h : writePartition env conf rows = .ok run)
    {o : Origin} {key : PyVal} {value : DLQRecord} (hy : SinkTuple.dlq o key value ∈ run.yields) :
    RecordOf rows key value := by
  obtain ⟨s, rfl, -, htally⟩ := writePartition_tally env conf h
  have htotal : s.tally ∈ records rows := by
    rw [htally]
    apply (records rows).list_sum_mem
    intro t ht
    obtain ⟨chunk, hchunk, rfl⟩ := List.mem_map.mp ht
    apply (records rows).list_sum_mem
    intro t ht
    obtain ⟨item, hitem, rfl⟩ := List.mem_map.mp ht
    have hmem : item ∈ rows.zipIdx := by
      rw [← flatten_batched conf.chunkSize rows.zipIdx]
      exact List.mem_flatten_of_mem hchunk hitem
    exact records_rowTally env conf (List.fst_mem_of_mem_zipIdx hmem) _
  have hyield : SinkTuple.dlq o key value ∈ s.yields := by
    rcases List.mem_append.mp hy with hy | hy
    · exact hy
    · cases List.mem_singleton.mp hy
  exact htotal (o, key, value) (Multiset.mem_coe.mpr (List.mem_filterMap.mpr ⟨_, hyield, rfl⟩))

/-- **A statement that never succeeds leaves a record of its row**, at stage `cassandra_sink`. -/
theorem writePartition_failing {run : PartitionRun} (h : writePartition env conf rows = .ok run)
    (hfail : ∀ row t n, (env.outcome row t n).isOk = false) {r : StreamRow} (hr : r ∈ rows)
    (hbuild : ∀ ingestedAtMs, ∃ st stmts,
      buildStatements r.asDict conf.tables ingestedAtMs = .ok (st :: stmts)) :
    ∃ o key value, SinkTuple.dlq o key value ∈ run.yields ∧
      value.failureStage = stageCassandraSink := by
  obtain ⟨s, rfl, hsettles, htally⟩ := writePartition_tally env conf h
  obtain ⟨pos, hpos⟩ := List.mem_iff_getElem?.mp hr
  have hitem : (r, pos) ∈ rows.zipIdx := List.mk_mem_zipIdx_iff_getElem?.mpr hpos
  obtain ⟨chunk, hchunk, hmem⟩ := exists_chunk conf hitem
  obtain ⟨rest, hrest⟩ := exists_total_eq_add env conf hchunk hmem
  obtain ⟨st, stmts, hstmts⟩ := hbuild (chunkTime env chunk)
  have hw : (⟨pos, r, st⟩ : Work) ∈ rowWork conf (chunkTime env chunk) (r, pos) := by
    rw [rowWork, hstmts]
    exact List.mem_map_of_mem List.mem_cons_self
  have hset := hsettles chunk hchunk _ hmem _ hw
  rcases stmtTally_cases env conf hset with ⟨hone, -⟩ | ⟨-, reason, n, hrec⟩
  · obtain ⟨x, hx, hok⟩ := exists_ok_of_rowsWritten env conf hset hone
    obtain ⟨-, -, hout⟩ := mem_stmtTally_executions env conf hx
    rw [hfail, hok] at hout
    cases hout
  · obtain ⟨u, hu⟩ := exists_sum_eq_add (List.mem_map_of_mem (f := stmtTally env conf) hw)
    have hq : ∀ q ∈ (stmtTally env conf ⟨pos, r, st⟩).quarantined, q ∈ s.tally.quarantined := by
      intro q hq
      rw [htally, hrest, rowTally, hu]
      simp only [Tally.add_quarantined, Multiset.mem_add]
      exact Or.inl (Or.inr (Or.inl hq))
    rw [hrec] at hq
    have hyield := mem_yields_of_quarantined (hq _ (Multiset.mem_singleton_self _))
    exact ⟨_, _, _, List.mem_append_left _ hyield, rfl⟩

end records

/-! ## What every evaluation yields, every action reads -/

section reading

variable {conf : SinkConf} {P : List StreamRow → PartitionRun → Prop}

/-- A property of the evaluations an action may make, and of what is cached, is a property of what
it reads and of what is cached afterwards. -/
theorem readAll_forall {access : ℕ → Access} {blocks : List Block}
    {reads : List (PartitionRun × Block)} (h : readAll conf access blocks = .ok reads)
    (heval : ∀ p rows run, writePartition (access p).env conf rows = .ok run → P rows run)
    (hcached : ∀ b ∈ blocks, ∀ run, b.cached = some run → P b.rows run) :
    (∀ r ∈ reads, P r.2.rows r.1) ∧
      ∀ b ∈ reads.map Prod.snd, ∀ run, b.cached = some run → P b.rows run := by
  have hread : ∀ r ∈ reads, P r.2.rows r.1 ∧ ∀ run, r.2.cached = some run → P r.2.rows run := by
    intro r hr
    obtain ⟨b, hb, hread⟩ := exists_of_mem_mapM h hr
    have hold := hcached b.1 (List.fst_mem_of_mem_zipIdx hb)
    unfold Block.read at hread
    dsimp only at hread
    split at hread
    · rename_i run hrun
      obtain rfl := Except.ok.inj hread
      refine ⟨hold run ?_, hold⟩
      by_cases hlost : (access b.2).lost = true
      · rw [if_pos hlost] at hrun
        cases hrun
      · rwa [if_neg hlost] at hrun
    · obtain ⟨run, hrun, hread⟩ := bind_eq_ok_iff.mp hread
      obtain rfl := Except.ok.inj hread
      refine ⟨heval _ _ _ hrun, ?_⟩
      rintro run' hrun'
      obtain rfl := Option.some.inj hrun'
      exact heval _ _ _ hrun
  refine ⟨fun r hr => (hread r hr).1, ?_⟩
  intro b hb
  obtain ⟨r, hr, rfl⟩ := List.mem_map.mp hb
  exact (hread r hr).2

end reading

/-! ## The batch's messages -/

section batch

variable {conf : StreamConf} {env : BatchEnv} {maxEventMs : Option ℤ} {batch : Frame}
  {out : BatchRun} {P : List StreamRow → PartitionRun → Prop}

/-- **Rule for a batch**: a property of every evaluation its actions may make holds of the results
its last action reads; and those decide the messages of the writer. -/
theorem Completed.saved_forall (h : Completed conf env maxEventMs batch out)
    (hcollect : ∀ p rows run,
      writePartition (env.collectStats p).env conf.sink rows = .ok run → P rows run)
    (hcount : ∀ p rows run,
      writePartition (env.countDlq p).env conf.sink rows = .ok run → P rows run)
    (hsave : ∀ p rows run,
      writePartition (env.saveDlq p).env conf.sink rows = .ok run → P rows run) :
    ∃ reads : List (PartitionRun × Block), reads.map (fun r => r.2.rows) = out.routes.good ∧
      (∀ r ∈ reads, P r.2.rows r.1) ∧
      out.dlq = out.routes.messages env ++
        (dlqRows (reads.map Prod.fst)).map fun kv => ⟨kv.1, kv.2.asdict⟩ := by
  have hrows := h.blocks_rows
  obtain ⟨collected, counted, hcollected, hcounted, hlast⟩ := h.actions
  obtain ⟨-, hcached₁⟩ := readAll_forall hcollected hcollect (by
    intro b hb run hrun
    obtain ⟨rows, -, rfl⟩ := List.mem_map.mp hb
    cases hrun)
  obtain ⟨hcountedP, hcached₂⟩ := readAll_forall hcounted hcount hcached₁
  rcases hlast with ⟨hnil, hdlq, hblocks⟩ | ⟨saved, hsaved, hdlq, hblocks⟩
  · refine ⟨counted, ?_, hcountedP, ?_⟩
    · rw [hblocks, List.map_map] at hrows
      exact hrows
    · rw [hnil, hdlq]
      exact (List.append_nil _).symm
  · refine ⟨saved, ?_, (readAll_forall hsaved hsave hcached₂).1, hdlq⟩
    rw [hblocks, List.map_map] at hrows
    exact hrows

/-- The envelope of a row: never replayed, and with the row's payload. -/
structure Envelope (r : StreamRow) (value : Dict) : Prop where
  replayCount : value.lookup "replay_count" = some (.int 0)
  stage : ∃ stage, value.lookup "failure_stage" = some (.str stage)
  payload : ∀ text, r.raw = some text → text ≠ "" →
    value.lookup "original_payload" = some (.str text)

/-- `to_json` keeps the fields that are not null. -/
theorem lookup_toJsonStruct {fields : Dict} {k : String} {v : PyVal}
    (h : fields.lookup k = some v) (hv : v.isNone = false) :
    (toJsonStruct fields).lookup k = some v := by
  induction fields with
  | nil => cases h
  | cons kv fields ih =>
      obtain ⟨k', v'⟩ := kv
      rw [Dict.lookup_cons_ite] at h
      unfold toJsonStruct at ih ⊢
      by_cases hk : k = k'
      · rw [if_pos hk] at h
        obtain rfl := Option.some.inj h
        rw [List.filter_cons_of_pos (by rw [hv]; rfl), Dict.lookup_cons_ite, if_pos hk]
      · rw [if_neg hk] at h
        rw [List.filter_cons]
        split_ifs
        · rw [Dict.lookup_cons_ite, if_neg hk]
          exact ih h
        · exact ih h

/-- The records of the two quarantining frames. -/
theorem envelope_toJsonStruct {r : StreamRow} {fields : Dict} {stage : String}
    (hreplay : fields.lookup "replay_count" = some (.int 0))
    (hstage : fields.lookup "failure_stage" = some (.str stage))
    (hpayload : fields.lookup "original_payload" = some (.ofOption .str r.raw)) :
    Envelope r (toJsonStruct fields) := by
  refine ⟨lookup_toJsonStruct hreplay rfl, ⟨stage, lookup_toJsonStruct hstage rfl⟩, ?_⟩
  intro text htext _
  rw [htext] at hpayload
  exact lookup_toJsonStruct hpayload rfl

/-- The records of the partition writer. -/
theorem RecordOf.envelope {rows : List StreamRow} {key : PyVal} {value : DLQRecord}
    (h : RecordOf rows key value) : ∃ r ∈ rows, Envelope r value.asdict := by
  obtain ⟨r, hr, senv, sconf, o, reason, stage, n, rfl, -⟩ := h
  refine ⟨r, hr, rfl, ⟨stage, rfl⟩, ?_⟩
  intro text htext hne
  have hpayload : (sinkRecord senv sconf o r reason stage n).originalPayload = text := by
    show rowJson senv.codec r = text
    rw [rowJson, htext]
    exact if_pos hne
  rw [← hpayload]
  rfl

/-- What a filter keeps was there before. -/
theorem where3_subset {f : Frame} {p : StreamRow → Option Bool} {r : StreamRow}
    (h : r ∈ (f.where3 p).rows) : r ∈ f.rows := by
  rw [Frame.rows_where3] at h
  exact (mem_filter3.mp h).1

/-- The rows a batch routes are rows of the batch. -/
theorem route_subset {routes : Routes} (h : route conf maxEventMs batch = .ok routes) :
    (∀ r ∈ routes.bad.rows, r ∈ batch.rows) ∧ (∀ r ∈ routes.lateWrite.rows, r ∈ batch.rows) ∧
      ∀ r ∈ routes.good.rows, r ∈ batch.rows := by
  have hbad : ∀ r ∈ (batch.where3 isUnparseable).rows, r ∈ batch.rows := fun r => where3_subset
  have hgood : ∀ r ∈ (parseable batch).rows, r ∈ batch.rows := fun r => where3_subset
  have hnone : ∀ r ∈ Frame.rows [], r ∈ batch.rows := fun r hr => absurd hr List.not_mem_nil
  unfold route at h
  rcases maxEventMs with _ | m
  · obtain rfl := Except.ok.inj h
    exact ⟨hbad, hnone, hgood⟩
  dsimp only at h
  by_cases hprocess : conf.latePolicy ≠ "process"
  · rw [if_pos hprocess] at h
    obtain ⟨cutoff, -, h⟩ := bind_eq_ok_iff.mp h
    split_ifs at h with hcount hdlq
    · obtain rfl := Except.ok.inj h
      exact ⟨hbad, fun r hr => hgood r (where3_subset hr), fun r hr => hgood r (where3_subset hr)⟩
    · obtain rfl := Except.ok.inj h
      exact ⟨hbad, hnone, fun r hr => hgood r (where3_subset hr)⟩
    · obtain rfl := Except.ok.inj h
      exact ⟨hbad, hnone, hgood⟩
  · rw [if_neg hprocess] at h
    obtain rfl := Except.ok.inj h
    exact ⟨hbad, hnone, hgood⟩

/-- The messages of the two quarantining frames. -/
theorem messages_envelope {routes : Routes} (h : route conf maxEventMs batch = .ok routes)
    {m : DlqMessage} (hm : m ∈ routes.messages env) : ∃ r ∈ batch.rows, Envelope r m.value := by
  obtain ⟨hbad, hlate, -⟩ := route_subset h
  rcases List.mem_append.mp hm with hm | hm
  · obtain ⟨r, hr, rfl⟩ := List.mem_map.mp hm
    exact ⟨r, hbad r hr, envelope_toJsonStruct rfl rfl rfl⟩
  · obtain ⟨r, hr, rfl⟩ := List.mem_map.mp hm
    exact ⟨r, hlate r hr, envelope_toJsonStruct rfl rfl rfl⟩

/-- **Every message of a batch is the envelope of one of its rows.** -/
theorem processBatch_envelope (h : processBatch conf env maxEventMs batch = .ok out) :
    ∀ m ∈ out.dlq, ∃ r ∈ batch.rows, Envelope r m.value := by
  intro m hm
  by_cases hrows : batch.count = 0
  · rw [processBatch, if_pos hrows] at h
    obtain rfl := Except.ok.inj h
    cases hm
  have hdone := processBatch_completed h hrows
  obtain ⟨reads, hgood, hreads, hdlq⟩ := hdone.saved_forall
    (P := fun rows run => ∀ o key value, SinkTuple.dlq o key value ∈ run.yields →
      RecordOf rows key value)
    (fun _ _ _ hrun _ _ _ => writePartition_records _ _ hrun)
    (fun _ _ _ hrun _ _ _ => writePartition_records _ _ hrun)
    (fun _ _ _ hrun _ _ _ => writePartition_records _ _ hrun)
  rw [hdlq] at hm
  rcases List.mem_append.mp hm with hm | hm
  · exact messages_envelope hdone.routed hm
  · obtain ⟨⟨key, value⟩, hkv, rfl⟩ := List.mem_map.mp hm
    obtain ⟨y, hy, hsome⟩ := List.mem_filterMap.mp hkv
    obtain ⟨run, hrun, hyield⟩ := List.mem_flatMap.mp hy
    obtain ⟨read, hread, rfl⟩ := List.mem_map.mp hrun
    rcases y with ⟨o, key', value'⟩ | p
    · obtain ⟨rfl, rfl⟩ := Prod.mk.inj (Option.some.inj hsome)
      obtain ⟨r, hr, henv⟩ := (hreads read hread _ _ _ hyield).envelope
      refine ⟨r, (route_subset hdone.routed).2.2 r ?_, henv⟩
      rw [← hgood]
      exact List.mem_flatten_of_mem (List.mem_map_of_mem hread) hr
    · cases hsome

/-- **When no execution succeeds, a row that can be built leaves a message** at stage
`cassandra_sink`. -/
theorem processBatch_failing (h : processBatch conf env maxEventMs batch = .ok out)
    (hcollect : ∀ p row t n, ((env.collectStats p).env.outcome row t n).isOk = false)
    (hcount : ∀ p row t n, ((env.countDlq p).env.outcome row t n).isOk = false)
    (hsave : ∀ p row t n, ((env.saveDlq p).env.outcome row t n).isOk = false)
    {r : StreamRow} (hr : r ∈ out.routes.good.rows)
    (hbuild : ∀ ingestedAtMs, ∃ st stmts,
      buildStatements r.asDict conf.sink.tables ingestedAtMs = .ok (st :: stmts)) :
    ∃ m ∈ out.dlq, m.value.lookup "failure_stage" = some (.str stageCassandraSink) := by
  by_cases hrows : batch.count = 0
  · obtain ⟨-, hroutes, -⟩ := processBatch_empty h hrows
    rw [hroutes] at hr
    cases hr
  have hdone := processBatch_completed h hrows
  obtain ⟨reads, hgood, hreads, hdlq⟩ := hdone.saved_forall
    (P := fun rows run => r ∈ rows → ∃ o key value, SinkTuple.dlq o key value ∈ run.yields ∧
      value.failureStage = stageCassandraSink)
    (fun p _ _ hrun hmem => writePartition_failing _ _ hrun (hcollect p) hmem hbuild)
    (fun p _ _ hrun hmem => writePartition_failing _ _ hrun (hcount p) hmem hbuild)
    (fun p _ _ hrun hmem => writePartition_failing _ _ hrun (hsave p) hmem hbuild)
  rw [← hgood] at hr
  obtain ⟨rows, hmem, hrow⟩ := List.mem_flatten.mp hr
  obtain ⟨read, hread, rfl⟩ := List.mem_map.mp hmem
  obtain ⟨o, key, value, hyield, hstage⟩ := hreads read hread hrow
  refine ⟨⟨key, value.asdict⟩, ?_, ?_⟩
  · rw [hdlq]
    apply List.mem_append_right
    exact List.mem_map_of_mem (mem_dlqRows (List.mem_map_of_mem hread) hyield)
  · rw [← hstage]
    rfl

end batch

end TripPipeline.Streaming
