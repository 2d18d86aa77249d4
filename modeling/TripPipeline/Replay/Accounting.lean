import TripPipeline.Replay.Leftover

/-!
# What the counts of a drain say

`drain` counts a record as re-injected when the client takes its message, and takes the error
callbacks off again after `flush(60)`. A message whose callback has not come by then is neither: it
stays in the count.

* `DrainResult.reinjected` and its neighbours read the entries of the returned dictionary.
* `Truthful` is what the three counts promise: confirmed deliveries, records with all their upserts,
  and no record left behind when nothing is unaccounted for.
* `truthful_iff`: they keep it iff every message handed over is heard of (`Heard`).
* `checkDrain` is the check the `dlq_drain` DAG makes of them; `noneLeft_of_checkDrain` says when it
  can be relied on.
-/

namespace TripPipeline.Replay

open TripPipeline.Common TripPipeline.Lib
open TripPipeline.Streaming (Statement Table allTables)

/-! ## The entries of the result -/

/-- `result["reinjected"]`; the result of a dry run has no such entry. -/
def DrainResult.reinjected : DrainResult → Option ℤ
  | .empty => some 0
  | .dryRun _ _ _ _ => none
  | .drained report => some report.reinjected

/-- `result["direct_written"]`. -/
def DrainResult.directWritten : DrainResult → Option ℕ
  | .empty => some 0
  | .dryRun _ _ _ _ => none
  | .drained report => some report.directWritten

/-- `result["unaccounted"]`. -/
def DrainResult.unaccounted : DrainResult → Option ℤ
  | .empty => none
  | .dryRun _ _ _ _ => none
  | .drained report => some report.unaccounted

/-- The check of the drain's result in the DAG: `result.get("unaccounted", 0)`.
Source: `airflow/dags/dlq_drain.py` `drain_dlq` -/
def checkDrain : DrainResult → Except Exc DrainResult
  | .drained report =>
      if report.unaccounted ≠ 0 then
        .error ⟨"RuntimeError", "drain lost " ++ toString report.unaccounted ++ " records: read " ++
          toString report.recordsRead ++ ", accounted " ++ toString report.accountedFor, []⟩
      else .ok (.drained report)
  | .empty => .ok .empty
  | .dryRun records reinject direct park => .ok (.dryRun records reinject direct park)

/-- The three upserts of a record all succeeded. -/
def DirectTurn.upserted (t : DirectTurn) : Bool :=
  decide (t.executed.map Statement.key = allTables)

/-- What the counts promise. -/
structure Truthful (run : DrainRun) (result : DrainResult) : Prop where
  reinjected : ∀ n ∈ result.reinjected, n = run.produced.countP fun p => p.delivery = .acked
  directWritten : ∀ n ∈ result.directWritten, n = run.direct.countP DirectTurn.upserted
  unaccounted : result.unaccounted = some 0 → NoneLeft run

/-- Every message handed over for `trips.raw` has its callback before `flush(60)` returns. -/
def Heard (env : DrainEnv) (maxReplays : ℤ) (recs : List DlqRead) : Prop :=
  ∀ r ∈ recs, classify env maxReplays r = .ok .reinject →
    ∀ p, reinjectOne env r = .ok p → env.delivery r.loc ≠ .silent

/-! ## Direct writes -/

/-- The loop over the statements ends normally iff it has executed them all. -/
theorem executeAll_isOk (execute : Table → Except Exc Unit) (stmts : List Statement) :
    (executeAll execute stmts).2.isOk = true ↔ (executeAll execute stmts).1 = stmts := by
  induction stmts with
  | nil => simp [executeAll, Except.isOk, Except.toBool]
  | cons st stmts ih =>
      rw [executeAll]
      cases execute st.key with
      | ok u => simpa using ih
      | error e => simp [Except.isOk, Except.toBool]

/-- A turn that is counted as written has executed the statements of all three tables. -/
theorem directWriteOne_isOk (env : DrainEnv) (r : DlqRead) :
    (directWriteOne env r).result.isOk = (directWriteOne env r).upserted := by
  rw [Bool.eq_iff_iff, DirectTurn.upserted, decide_eq_true_iff]
  unfold directWriteOne
  dsimp only
  split
  · exact iff_of_false Bool.false_ne_true (List.cons_ne_nil _ _).symm
  · rename_i stmts hbuilt
    obtain ⟨text, kvs, d, -, -, hstmts⟩ := built_ok_iff.mp hbuilt
    have hkeys : stmts.map Statement.key = allTables := Streaming.buildStatements_keys hstmts
    refine (executeAll_isOk (env.execute r.loc) stmts).trans ?_
    constructor
    · intro hall
      show (executeAll (env.execute r.loc) stmts).1.map Statement.key = allTables
      rw [hall, hkeys]
    · intro hmap
      have hlen : (executeAll (env.execute r.loc) stmts).1.length = stmts.length := by
        have h := congrArg List.length (hmap.trans hkeys.symm)
        rwa [List.length_map, List.length_map] at h
      exact (prefix_executeAll _ stmts).eq_of_length hlen

/-! ## Callbacks -/

/-- A message was confirmed, refused, or not heard of. -/
theorem length_produced (produced : List Produced) :
    produced.length = (produced.countP fun p => p.delivery = .acked) +
      (produced.countP fun p => p.delivery = .failed) +
      produced.countP fun p => p.delivery = .silent := by
  induction produced with
  | nil => rfl
  | cons p produced ih =>
      rw [List.length_cons, List.countP_cons, List.countP_cons, List.countP_cons, ih]
      cases hp : p.delivery <;> simp <;> omega

section drains

variable {args : DrainArgs} {env : DrainEnv} {topic : Topic DlqValue} {run : DrainRun}

/-- Every message of the drain is heard of iff none of those handed over is silent. -/
theorem DrainedFrom.heard_iff (h : Drained args env topic run) :
    Heard env args.maxReplays run.read ↔
      (run.produced.countP fun p => p.delivery = .silent) = 0 := by
  rw [List.countP_eq_zero, h.produced, routeRecords_reinject h.routed]
  constructor
  · intro hheard p hp hsilent
    obtain ⟨r, hr, hone⟩ := mem_reinjectAll.mp hp
    obtain ⟨hmem, hclass⟩ := List.mem_filter.mp hr
    refine hheard r hmem (toOption_eq_some_iff.mp (of_decide_eq_true hclass)) p hone ?_
    rw [← (reinjectOne_ok hone).2.1]
    exact of_decide_eq_true hsilent
  · intro hnone r hr hclass p hone hsilent
    refine hnone p (mem_reinjectAll.mpr ⟨r, List.mem_filter.mpr ⟨hr, ?_⟩, hone⟩) ?_
    · rw [toOption_eq_some_iff.mpr hclass]
      rfl
    · rw [(reinjectOne_ok hone).2.1, hsilent]
      rfl

/-- The count of re-injected records: confirmed deliveries, and messages not heard of. -/
theorem reinjected_eq (recs : List DlqRead) (lists : Lists) (produced : List Produced)
    (direct : List DirectTurn) :
    (drainReport recs lists produced direct).reinjected =
      (produced.countP fun p => p.delivery = .acked) +
        (produced.countP fun p => p.delivery = .silent) := by
  show (produced.length : ℤ) - (produced.countP fun p => p.delivery = .failed) = _
  have hlen := length_produced produced
  omega

/-- The count of direct writes is right whatever happens. -/
theorem DrainedFrom.directWritten_eq (h : Drained args env topic run) {report : DrainReport}
    (hreport : run.result = .ok (.drained report)) :
    report.directWritten = run.direct.countP DirectTurn.upserted := by
  obtain ⟨hcounts, hdirect, -⟩ := h.reported report hreport
  rw [hcounts]
  show run.direct.countP (fun t => t.result.isOk) = _
  rw [hdirect, List.countP_map, List.countP_map]
  refine List.countP_congr fun r _ => ?_
  exact Eq.to_iff (congrArg (· = true) (directWriteOne_isOk env r))

/-- As many deliveries are acknowledged as records are published again. -/
theorem DrainedFrom.countP_acked (h : Drained args env topic run) :
    (run.produced.countP fun p => p.delivery = .acked) =
      run.lists.reinject.countP fun r =>
        decide (∃ p ∈ (reinjectOne env r).toOption, p.delivery = .acked) := by
  rw [h.produced, reinjectAll, List.countP_filterMap]
  refine List.countP_congr fun r _ => ?_
  cases (reinjectOne env r).toOption <;> simp

/-- **When nothing is unaccounted for and every message was heard of, nothing is left behind.** -/
theorem DrainedFrom.noneLeft (h : Drained args env topic run) {report : DrainReport}
    (hreport : run.result = .ok (.drained report))
    (hheard : Heard env args.maxReplays run.read) (hzero : report.unaccounted = 0) :
    NoneLeft run := by
  obtain ⟨hcounts, hdirect, -⟩ := h.reported report hreport
  have hsplit := (routeRecords_perm h.routed).length_eq
  simp only [List.length_map, List.length_append] at hsplit
  have hlen := length_produced run.produced
  rw [h.heard_iff.mp hheard] at hlen
  have hproduced : run.produced.length ≤ run.lists.reinject.length := by
    rw [h.produced]
    simpa using (reinjectAll_sublist run.lists.reinject).length_le
  have hwritten : run.direct.countP DirectTurn.upserted ≤ run.lists.direct.length := by
    refine (List.countP_le_length).trans ?_
    rw [hdirect, List.length_map]
  -- both lists were handled to the last record
  have hunaccounted : (run.read.length : ℤ) - (report.reinjected + report.directWritten +
      run.lists.park.length) = 0 := by
    rw [hcounts] at hzero ⊢
    exact hzero
  rw [h.directWritten_eq hreport, hcounts, reinjected_eq, h.heard_iff.mp hheard] at hunaccounted
  have hallAcked : (run.lists.reinject.countP fun r =>
      decide (∃ p ∈ (reinjectOne env r).toOption, p.delivery = .acked)) =
        run.lists.reinject.length := by
    have hcount := h.countP_acked
    omega
  have hallWritten : run.direct.countP DirectTurn.upserted = run.direct.length := by
    rw [hdirect, List.length_map, ← hdirect]
    omega
  intro r hr
  refine (h.left_iff hreport hr).mpr ⟨?_, ?_⟩
  · intro hclass
    have hmem : r ∈ run.lists.reinject := by
      rw [routeRecords_reinject h.routed, List.mem_filter]
      exact ⟨hr, by rw [toOption_eq_some_iff.mpr hclass]; rfl⟩
    obtain ⟨p, hp, hacked⟩ := of_decide_eq_true (List.countP_eq_length.mp hallAcked r hmem)
    exact republishable_iff.mpr ⟨p, toOption_eq_some_iff.mp hp, hacked⟩
  · intro hclass
    have hmem : directWriteOne env r ∈ run.direct := by
      rw [hdirect, (routeRecords_eq h.routed).2.1]
      refine List.mem_map_of_mem (List.mem_filter.mpr ⟨hr, ?_⟩)
      rw [toOption_eq_some_iff.mpr hclass]
      rfl
    exact directWriteOne_executed_iff.mp
      (of_decide_eq_true (List.countP_eq_length.mp hallWritten _ hmem))

/-- **The counts are truthful iff every message handed over is heard of before the flush ends.** -/
theorem truthful_iff {res : DrainResult} (h : drain args env topic = .ok run)
    (hdry : args.dryRun = false) (hret : run.result = .ok res) :
    Truthful run res ↔ Heard env args.maxReplays run.read := by
  have hdrained := drain_drained h hdry
  rcases drain_returned h hdry hret with ⟨rfl, rfl⟩ | ⟨report, rfl⟩
  · -- nothing was read
    refine iff_of_true ⟨?_, ?_, ?_⟩ fun r hr => absurd hr List.not_mem_nil
    · intro n hn
      exact (Option.some.inj hn).symm
    · intro n hn
      exact (Option.some.inj hn).symm
    · intro hnone
      cases hnone
  have hcounts := (hdrained.reported report hret).1
  constructor
  · intro htruthful
    have hreinjected := htruthful.reinjected report.reinjected rfl
    rw [hcounts, reinjected_eq] at hreinjected
    rw [hdrained.heard_iff]
    omega
  · intro hheard
    refine ⟨?_, ?_, ?_⟩
    · intro n hn
      obtain rfl := Option.some.inj hn
      rw [hcounts, reinjected_eq, hdrained.heard_iff.mp hheard]
      exact add_zero _
    · intro n hn
      obtain rfl := Option.some.inj hn
      exact hdrained.directWritten_eq hret
    · intro hzero
      exact hdrained.noneLeft hret hheard (Option.some.inj hzero)

/-- What the DAG may conclude: a drain that passes its check has left nothing behind, when every
message was heard of. -/
theorem noneLeft_of_checkDrain {res : DrainResult} (h : drain args env topic = .ok run)
    (hdry : args.dryRun = false) (hret : run.result = .ok res)
    (hheard : Heard env args.maxReplays run.read) (hcheck : checkDrain res = .ok res) :
    NoneLeft run := by
  rcases drain_returned h hdry hret with ⟨rfl, rfl⟩ | ⟨report, rfl⟩
  · intro r hr
    cases hr
  · unfold checkDrain at hcheck
    dsimp only at hcheck
    split_ifs at hcheck with hzero
    exact (drain_drained h hdry).noneLeft hret hheard (not_not.mp hzero)

end drains

/-! ## One record of the sink -/

/-- An event that was quarantined by the sink. -/
def sinkTopic : Topic DlqValue := fun p =>
  if p = 0 then
    [.json (.dict [("failure_stage", .str stageCassandraSink),
      ("original_payload", .str "\x7b\x7d")])]
  else []

/-- A drain whose message for `trips.raw` ends as `delivery` says. -/
def sinkEnv (delivery : Delivery) : DrainEnv :=
  { calmEnv with codec := ⟨fun _ => some (.dict []), fun _ => ""⟩, delivery := fun _ => delivery }

/-- The general result at a delivery that is acknowledged. -/
theorem truthful_iff_acked :
    ∃ run res, drain ⟨0, 3, false⟩ (sinkEnv .acked) sinkTopic = .ok run ∧ run.result = .ok res ∧
      (Truthful run res ↔ Heard (sinkEnv .acked) 3 run.read) := by
  obtain ⟨run, res, hrun, hres⟩ : ∃ run res,
    drain ⟨0, 3, false⟩ (sinkEnv .acked) sinkTopic = .ok run ∧ run.result = .ok res :=
      ⟨_, _, rfl, rfl⟩
  exact ⟨run, res, hrun, hres, truthful_iff hrun rfl hres⟩

/-- The flush times out: the drain reports one record re-injected and none unaccounted for, the DAG
is content, and the message was never confirmed. -/
theorem silent_counted :
    ∃ run report, drain ⟨0, 3, false⟩ (sinkEnv .silent) sinkTopic = .ok run ∧
      run.result = .ok (.drained report) ∧ report.reinjected = 1 ∧ report.unaccounted = 0 ∧
      (run.produced.countP fun p => p.delivery = .acked) = 0 ∧
      checkDrain (.drained report) = .ok (.drained report) ∧ ¬NoneLeft run ∧
      ¬Truthful run (.drained report) := by
  refine ⟨_, _, rfl, rfl, rfl, rfl, rfl, rfl, fun h => ?_, fun h => ?_⟩
  · rcases h _ List.mem_cons_self with ⟨p, hp, -, hacked⟩ | ⟨t, ht, -⟩ | hpark
    · obtain rfl := List.mem_singleton.mp hp
      cases hacked
    · cases ht
    · cases hpark
  · exact absurd (h.reinjected 1 rfl) (by decide)

end TripPipeline.Replay
