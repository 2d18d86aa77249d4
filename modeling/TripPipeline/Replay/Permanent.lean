import TripPipeline.Replay.Cycle
import TripPipeline.Streaming.Recompute

/-!
# Permanent failures and the drain

The writer sorts exceptions into `RETRYABLE` and `PERMANENT`. The envelope has one stage for both:
a statement given up on a permanent exception, in its first execution or in the retry loop, leaves a
record of stage `cassandra_sink`, and this stage is what the drain re-injects.

* `writePartition_stage`: what a yielded record says about itself.
* `parks_of`, `not_parks`: what a drain does with a record of the writer depends on its stage and on
  the sign of the ceiling.
* `permanentParked_iff`: permanent failures are parked iff there are none, or the ceiling parks
  everything.
-/

namespace TripPipeline.Replay

open TripPipeline.Common TripPipeline.Lib
open TripPipeline.Streaming

/-! ## The records of a partition -/

section writer

variable {env : SinkEnv} {conf : SinkConf} {rows : List StreamRow} {run : PartitionRun}

/-- The record is that of a statement given up on `e`. -/
def GivenUpOn (env : SinkEnv) (conf : SinkConf) (o : Origin) (e : Exc) : Prop :=
  ∃ t, o.table = some t ∧ lastError env conf o.row t = some e

/-- A record says it has never been replayed; it is of stage `parse`, or it is of stage
`cassandra_sink` and belongs to a statement that was given up. -/
theorem writePartition_stage (h : writePartition env conf rows = .ok run) {o : Origin} {key : PyVal}
    {value : DLQRecord} (hy : SinkTuple.dlq o key value ∈ run.yields) :
    value.replayCount = 0 ∧ (value.failureStage = stageParse ∨
      value.failureStage = stageCassandraSink ∧ ∃ item ∈ rows.zipIdx,
        o ∈ builtStatements conf item ∧ ∃ e, GivenUpOn env conf o e) := by
  obtain ⟨s, -, hsettles, -⟩ := writePartition_tally env conf h
  obtain ⟨r, -, _, _, _, _, _, _, hvalue, -⟩ := writePartition_records env conf h hy
  refine ⟨by rw [hvalue]; rfl, ?_⟩
  obtain ⟨chunk, hchunk, item, hitem, hq⟩ :=
    (writePartition_dlq_iff h (q := (o, key, value))).mp hy
  rcases hq with hq | ⟨w, hw, hq⟩
  · exact Or.inl (buildTally_quarantined env conf hq)
  · right
    rcases stmtTally_lastError env conf (hsettles chunk hchunk item hitem w hw) with
      ⟨-, hnone, -⟩ | ⟨-, e, n, he, hrec⟩
    · rw [hnone] at hq
      exact absurd hq (Multiset.notMem_zero _)
    · rw [hrec] at hq
      obtain ⟨rfl, -, rfl⟩ : o = w.origin ∧ key = _ ∧ value = _ := by
        simpa using Multiset.mem_singleton.mp hq
      have hmem : item ∈ rows.zipIdx := by
        rw [← flatten_batched conf.chunkSize rows.zipIdx]
        exact List.mem_flatten_of_mem hchunk hitem
      refine ⟨rfl, item, hmem, ?_, e, w.stmt.key, rfl, he⟩
      rw [← rowWork_origin conf (chunkTime env chunk)]
      exact List.mem_map_of_mem hw

/-- Every statement that is given up leaves a record of stage `cassandra_sink`. -/
theorem exists_dlq_of_lastError (h : writePartition env conf rows = .ok run)
    {item : StreamRow × ℕ} (hitem : item ∈ rows.zipIdx) {o : Origin}
    (ho : o ∈ builtStatements conf item) {e : Exc} (he : GivenUpOn env conf o e) :
    ∃ key value, SinkTuple.dlq o key value ∈ run.yields ∧
      value.failureStage = stageCassandraSink := by
  obtain ⟨s, -, hsettles, -⟩ := writePartition_tally env conf h
  obtain ⟨chunk, hchunk, hmem⟩ := exists_chunk conf hitem
  rw [← rowWork_origin conf (chunkTime env chunk)] at ho
  obtain ⟨w, hw, rfl⟩ := List.mem_map.mp ho
  obtain ⟨t, ht, hlast⟩ := he
  obtain rfl : w.stmt.key = t := Option.some.inj ht
  rcases stmtTally_lastError env conf (hsettles chunk hchunk item hmem w hw) with
    ⟨-, -, hnone⟩ | ⟨-, e', n, -, hrec⟩
  · cases hnone.symm.trans hlast
  · have hy := (writePartition_dlq_iff h).mpr ⟨chunk, hchunk, item, hmem, Or.inr ⟨w, hw,
      hrec ▸ Multiset.mem_singleton_self _⟩⟩
    exact ⟨_, _, hy, rfl⟩

end writer

/-! ## What a drain does with a record -/

/-- A drain with this ceiling that got to its routing, and has read the record at `l`. -/
structure ReadBy (maxReplays : ℤ) (value : DLQRecord) (l : Loc) (run : DrainRun) : Prop where
  drained : ∃ args env topic, args.maxReplays = maxReplays ∧ drain args env topic = .ok run ∧
    (topic l.partition)[l.offset]? = some (.json (.dict value.asdict))
  read : l ∈ run.read.map DlqRead.loc

/-- Every drain that reads the record parks it, and does not re-inject it. -/
def Parks (maxReplays : ℤ) (value : DLQRecord) : Prop :=
  ∀ l run, ReadBy maxReplays value l run →
    l ∈ run.lists.park.map DlqRead.loc ∧ l ∉ run.lists.reinject.map DlqRead.loc

/-- Some drain that reads the record re-injects it. -/
def MayReinject (maxReplays : ℤ) (value : DLQRecord) : Prop :=
  ∃ l run, ReadBy maxReplays value l run ∧ l ∈ run.lists.reinject.map DlqRead.loc

section drains

variable {maxReplays : ℤ} {value : DLQRecord}

/-- Every drain that ends, a dry run included, has read and routed. -/
theorem drain_routed {args : DrainArgs} {env : DrainEnv} {topic : Topic DlqValue} {run : DrainRun}
    (h : drain args env topic = .ok run) :
    readAll topic env.polls args.limit = .ok run.read ∧
      routeRecords env args.maxReplays run.read = .ok run.lists := by
  by_cases hdry : args.dryRun = false
  · have hdrained := drain_drained h hdry
    exact ⟨hdrained.reads, hdrained.routed⟩
  unfold drain drainFrom at h
  obtain ⟨recs, hrecs, h⟩ := bind_eq_ok_iff.mp h
  by_cases hempty : recs.isEmpty = true
  · rw [if_pos hempty] at h
    obtain rfl := Except.ok.inj h
    exact ⟨List.isEmpty_iff.mp hempty ▸ hrecs, rfl⟩
  · rw [if_neg hempty] at h
    obtain ⟨lists, hlists, h⟩ := bind_eq_ok_iff.mp h
    rw [if_pos (Bool.not_eq_false _ ▸ hdry)] at h
    obtain rfl := Except.ok.inj h
    exact ⟨hrecs, hlists⟩

/-- The list of a record is the one its fields decide on. -/
theorem ReadBy.routed {l : Loc} {run : DrainRun} (h : ReadBy maxReplays value l run) :
    ∃ env r, r.fields.lookup "replay_count" = some (.int value.replayCount) ∧
      r.fields.lookup "failure_stage" = some (.str value.failureStage) ∧
      (classify env maxReplays r = .ok .reinject → l ∈ run.lists.reinject.map DlqRead.loc) ∧
      ∀ reason, classify env maxReplays r = .ok (.park reason) →
        l ∈ run.lists.park.map DlqRead.loc ∧ l ∉ run.lists.reinject.map DlqRead.loc := by
  obtain ⟨args, env, topic, rfl, hdrain, hvalue⟩ := h.drained
  obtain ⟨hreads, hrouted⟩ := drain_routed hdrain
  obtain ⟨hreinject, -, hpark⟩ := routeRecords_eq hrouted
  obtain ⟨pos, hread⟩ := readAll_readUpTo hreads
  obtain ⟨r, hr, rfl⟩ := List.mem_map.mp h.read
  obtain ⟨v, hv, hdecode⟩ := hread.decoded r hr
  obtain rfl := Option.some.inj (hvalue.symm.trans hv)
  have hlookup : ∀ k, k ≠ "_offset" → k ≠ "_partition" →
      r.fields.lookup k = value.asdict.lookup k := by
    intro k hoff hpart
    rw [← Except.ok.inj hdecode]
    rw [Dict.lookup_set, if_neg hoff, Dict.lookup_set, if_neg hpart]
  refine ⟨env, r, hlookup _ (by decide) (by decide), hlookup _ (by decide) (by decide), ?_, ?_⟩
  · intro hclass
    apply List.mem_map_of_mem
    rw [hreinject]
    exact List.mem_filter.mpr ⟨hr, decide_eq_true (toOption_eq_some_iff.mpr hclass)⟩
  · intro reason hclass
    have hparked := parked?_eq_some_iff.mpr ⟨reason, hclass, rfl⟩
    refine ⟨?_, ?_⟩
    · rw [hpark]
      exact List.mem_map.mpr ⟨_, List.mem_filterMap.mpr ⟨r, hr, hparked⟩, rfl⟩
    · intro hmem
      obtain ⟨r', hr', hloc⟩ := List.mem_map.mp hmem
      rw [hreinject] at hr'
      obtain ⟨hmem', hclass'⟩ := List.mem_filter.mp hr'
      -- the two records stand at the same place
      obtain rfl := List.inj_on_of_nodup_map hread.nodup hmem' hr hloc
      cases hclass.symm.trans (toOption_eq_some_iff.mp (of_decide_eq_true hclass'))

/-- Handling the lists leaves what was read. -/
theorem handle_read (env : DrainEnv) (recs : List DlqRead) (lists : Lists) :
    (handle env recs lists).read = recs := by
  unfold handle
  dsimp only
  split
  · rfl
  · split <;> rfl

/-- Some drain reads the record. -/
theorem exists_readBy (maxReplays : ℤ) (value : DLQRecord) :
    ∃ l run, ReadBy maxReplays value l run := by
  let topic : Topic DlqValue := fun p => if p = 0 then [.json (.dict value.asdict)] else []
  let env := smoothEnv ⟨fun _ => none, fun _ => ""⟩ 1
  obtain ⟨r, hr⟩ : ∃ r, (DlqValue.json (.dict value.asdict)).toRecord ⟨0, 0⟩ = .ok r := ⟨_, rfl⟩
  have hreads : readAll topic env.polls 0 = .ok [r] := by
    show (do let r ← (DlqValue.json (.dict value.asdict)).toRecord ⟨0, 0⟩; _) = _
    rw [hr]
    rfl
  have hclass : ∃ a, classify env maxReplays r = .ok a := by
    rw [← Except.ok.inj hr]
    exact ⟨_, classify_eq (n := value.replayCount) rfl rfl⟩
  obtain ⟨lists, hlists⟩ : ∃ lists, routeRecords env maxReplays [r] = .ok lists :=
    exists_routeRecords fun r' hr' => List.mem_singleton.mp hr' ▸ hclass
  refine ⟨⟨0, 0⟩, handle env [r] lists, ⟨⟨⟨0, maxReplays, false⟩, env, topic, rfl, ?_, rfl⟩, ?_⟩⟩
  · simp [drain, drainFrom, hreads, hlists, bind, Except.bind]
  · rw [handle_read, List.map_singleton, toRecord_loc hr]
    exact List.mem_singleton_self _

/-- A record that has not been replayed is parked when the ceiling is not positive, or its stage is
`parse`. -/
theorem parks_of (hzero : value.replayCount = 0)
    (h : maxReplays ≤ 0 ∨ value.failureStage = stageParse) : Parks maxReplays value := by
  intro l run hread
  obtain ⟨env, r, hcount, hstage, -, hpark⟩ := hread.routed
  have hclass : classify env maxReplays r = .ok _ := classify_eq hcount hstage
  rw [hzero] at hclass
  by_cases hmax : maxReplays ≤ 0
  · rw [if_pos hmax] at hclass
    exact hpark _ hclass
  · rw [if_neg hmax, h.resolve_left hmax] at hclass
    exact hpark _ hclass

/-- A record of stage `cassandra_sink` that has not been replayed is re-injected. -/
theorem not_parks (hzero : value.replayCount = 0) (hstage : value.failureStage = stageCassandraSink)
    (hmax : 0 < maxReplays) : ¬Parks maxReplays value := by
  obtain ⟨l, run, hread⟩ := exists_readBy maxReplays value
  obtain ⟨env, r, hcount, hstage', hreinject, -⟩ := hread.routed
  have hclass : classify env maxReplays r = .ok _ := classify_eq hcount hstage'
  rw [hzero, hstage, if_neg (not_le.mpr hmax)] at hclass
  intro hparks
  exact (hparks l run hread).2 (hreinject hclass)

/-- A value that is parked is not re-injected. -/
theorem Parks.not_mayReinject (h : Parks maxReplays value) : ¬MayReinject maxReplays value := by
  rintro ⟨l, run, hread, hmem⟩
  exact (h l run hread).2 hmem

end drains

/-! ## Permanent failures -/

/-- Permanent failures are parked; what is re-injected was given up on a retryable exception. -/
structure PermanentParked (env : SinkEnv) (conf : SinkConf) (run : PartitionRun)
    (maxReplays : ℤ) : Prop where
  parked : ∀ o key value, SinkTuple.dlq o key value ∈ run.yields → ∀ e, GivenUpOn env conf o e →
    e.isInstance permanent = true → Parks maxReplays value
  retryable : ∀ o key value, SinkTuple.dlq o key value ∈ run.yields →
    MayReinject maxReplays value → ∃ e, GivenUpOn env conf o e ∧ e.isInstance retryable = true

/-- No statement of the rows is given up on a permanent exception. -/
def NonePermanent (env : SinkEnv) (conf : SinkConf) (rows : List StreamRow) : Prop :=
  ∀ item ∈ rows.zipIdx, ∀ o ∈ builtStatements conf item, ∀ e, GivenUpOn env conf o e →
    e.isInstance permanent = false

section main

variable {env : SinkEnv} {conf : SinkConf} {rows : List StreamRow} {run : PartitionRun}
  {maxReplays : ℤ}

/-- A permanent failure under a positive ceiling is re-injected. -/
theorem not_permanentParked (h : writePartition env conf rows = .ok run) (hmax : 0 < maxReplays)
    {item : StreamRow × ℕ} (hitem : item ∈ rows.zipIdx) {o : Origin}
    (ho : o ∈ builtStatements conf item) {e : Exc} (he : GivenUpOn env conf o e)
    (hperm : e.isInstance permanent = true) : ¬PermanentParked env conf run maxReplays := by
  intro hparked
  obtain ⟨key, value, hy, hstage⟩ := exists_dlq_of_lastError h hitem ho he
  have hzero := (writePartition_stage h hy).1
  exact not_parks hzero hstage hmax (hparked.parked o key value hy e he hperm)

/-- **Permanent failures are parked iff there are none, or the ceiling parks everything.** -/
theorem permanentParked_iff (h : writePartition env conf rows = .ok run) :
    PermanentParked env conf run maxReplays ↔ maxReplays ≤ 0 ∨ NonePermanent env conf rows := by
  constructor
  · intro hparked
    by_cases hmax : maxReplays ≤ 0
    · exact Or.inl hmax
    · refine Or.inr fun item hitem o ho e he => ?_
      by_contra hperm
      exact not_permanentParked h (not_le.mp hmax) hitem ho he (Bool.not_eq_false _ ▸ hperm) hparked
  · intro hcond
    have hsink : ∀ o key value, SinkTuple.dlq o key value ∈ run.yields →
        ¬Parks maxReplays value → (∃ e, GivenUpOn env conf o e) ∧
          ∀ e, GivenUpOn env conf o e → e.isInstance permanent = false := by
      intro o key value hy hparks
      obtain ⟨hzero, hstage⟩ := writePartition_stage h hy
      have hmax : ¬maxReplays ≤ 0 := fun hmax => hparks (parks_of hzero (Or.inl hmax))
      obtain ⟨-, item, hitem, ho, he⟩ :=
        hstage.resolve_left fun hparse => hparks (parks_of hzero (Or.inr hparse))
      exact ⟨he, hcond.resolve_left hmax item hitem o ho⟩
    refine ⟨?_, ?_⟩
    · intro o key value hy e he hperm
      by_contra hparks
      rw [(hsink o key value hy hparks).2 e he] at hperm
      cases hperm
    · intro o key value hy hmay
      obtain ⟨⟨e, he⟩, hnot⟩ := hsink o key value hy fun hparks => hparks.not_mayReinject hmay
      refine ⟨e, he, ?_⟩
      obtain ⟨t, -, hlast⟩ := id he
      rcases lastError_isInstance env conf hlast with hperm | hretry
      · rw [hnot e he] at hperm
        cases hperm
      · exact hretry

/-- One row under an environment in which its only statement settles. -/
theorem exists_sampleRun (env : SinkEnv) (hlisted : env.Listed) :
    ∃ run, writePartition env sampleConf [sampleRow] = .ok run :=
  writePartition_of_settles env sampleConf
    fun _ _ item _ => rowSettles_of_listed env sampleConf hlisted _ item

/-- The general result at a sink that raises once. -/
theorem permanentParked_iff_flaky :
    ∃ run, writePartition flakyEnv sampleConf [sampleRow] = .ok run ∧
      (PermanentParked flakyEnv sampleConf run 3 ↔
        (3 : ℤ) ≤ 0 ∨ NonePermanent flakyEnv sampleConf [sampleRow]) := by
  obtain ⟨run, hrun⟩ := exists_sampleRun flakyEnv flakyEnv_listed
  exact ⟨run, hrun, permanentParked_iff hrun⟩

/-- With the default ceiling of 3, an event that Cassandra refuses as invalid is re-injected. -/
theorem invalidRequest_replayed :
    ∃ run, writePartition refusingEnv sampleConf [sampleRow] = .ok run ∧
      ¬PermanentParked refusingEnv sampleConf run 3 := by
  obtain ⟨run, hrun⟩ := exists_sampleRun refusingEnv refusingEnv_listed
  have hbuilt : (⟨0, some .tripsById⟩ : Origin) ∈ builtStatements sampleConf (sampleRow, 0) := by
    decide +kernel
  exact ⟨run, hrun, not_permanentParked hrun (by norm_num) (List.mem_singleton_self _) hbuilt
    ⟨.tripsById, rfl, rfl⟩ rfl⟩

end main

end TripPipeline.Replay
