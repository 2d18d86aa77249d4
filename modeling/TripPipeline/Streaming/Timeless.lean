import TripPipeline.Streaming.Balance

/-!
# What a tally says apart from the clock

Two evaluations of the writer happen at two times, and maybe on two hosts: the write time in their
statements and the timestamps of their records differ, and with other chunks the write time is not
even the same for the same rows. `view` drops them from a tally, and renames the rows.

* `view_rowTally`: what is left of the tally of a row is a function of the row, of the outcomes of
  its statements, and of the tables, the topic and the attempt budget. Chunk size, schedule and
  jitter do not enter.
* `view_total`: so the view of a whole partition is a sum over its rows.
-/

namespace TripPipeline.Streaming

open TripPipeline.Common TripPipeline.Lib

/-! ## The view -/

/-- A record without its timestamps and its host. -/
def undated (r : DLQRecord) : DLQRecord :=
  { r with
    firstFailedAtMs := 0
    quarantinedAtMs := 0
    host := "" }

/-- An execution without the write time of its statement. -/
def Execution.timeless (place : ℕ → ℕ) (x : Execution) : Execution :=
  ⟨place x.row, x.statement.timeless, x.attempt, x.ok⟩

/-- A yielded `dlq` tuple without timestamps and host. -/
def viewRecord (place : ℕ → ℕ) (q : Origin × PyVal × DLQRecord) : Origin × PyVal × DLQRecord :=
  (⟨place q.1.row, q.1.table⟩, q.2.1, undated q.2.2)

/-- A tally without write times and timestamps, its rows renamed. -/
def view (place : ℕ → ℕ) : Tally →+ Tally where
  toFun t :=
    { t with
      quarantined := t.quarantined.map (viewRecord place)
      executions := t.executions.map (Execution.timeless place) }
  map_zero' := rfl
  map_add' a b := by ext1 <;> simp

/-- A view changes the records and the executions only. -/
theorem view_apply (place : ℕ → ℕ) (t : Tally) : view place t =
    { t with
      quarantined := t.quarantined.map (viewRecord place)
      executions := t.executions.map (Execution.timeless place) } :=
  rfl

/-- What two evaluations have in common apart from the outcomes: the codec, and of the configuration
the tables, the topic and the attempt budget. -/
structure Alike (env env' : SinkEnv) (conf conf' : SinkConf) : Prop where
  codec : env.codec = env'.codec
  tables : conf.tables = conf'.tables
  sourceTopic : conf.sourceTopic = conf'.sourceTopic
  maxAttempts : conf.retry.maxAttempts = conf'.retry.maxAttempts

section alike

variable {env env' : SinkEnv} {conf conf' : SinkConf} {place place' : ℕ → ℕ}

/-- Alike sinks have the same budget. -/
theorem Alike.attemptBudget (h : Alike env env' conf conf') :
    attemptBudget (retryPolicy conf.retry) = attemptBudget (retryPolicy conf'.retry) := by
  unfold Common.attemptBudget retryPolicy
  rw [h.maxAttempts]

/-! ## One statement -/

/-- Quarantining two rows in the same place is the same. -/
theorem view_quarantineTally (h : Alike env env' conf conf') {o u : Origin}
    (hplace : place o.row = place' u.row) (htable : o.table = u.table) (r : StreamRow)
    (reason stage : String) (retryCount : ℕ) :
    view place (quarantineTally env conf o r reason stage retryCount) =
      view place' (quarantineTally env' conf' u r reason stage retryCount) := by
  have hrecord : undated (sinkRecord env conf o r reason stage retryCount) =
      undated (sinkRecord env' conf' u r reason stage retryCount) := by
    simp [undated, sinkRecord, build, h.codec, h.sourceTopic]
  have hkey : (sinkRecord env conf o r reason stage retryCount).key =
      (sinkRecord env' conf' u r reason stage retryCount).key := by
    have hundated := congrArg DLQRecord.key hrecord
    exact hundated
  have hview : viewRecord place (o, (sinkRecord env conf o r reason stage retryCount).key,
        sinkRecord env conf o r reason stage retryCount) =
      viewRecord place' (u, (sinkRecord env' conf' u r reason stage retryCount).key,
        sinkRecord env' conf' u r reason stage retryCount) := by
    rw [viewRecord, viewRecord, hkey, hrecord, hplace, htable]
  simp [view_apply, quarantineTally, hview]

/-- Two statements that differ in their write times only, and have the same outcomes. -/
structure Twins (env env' : SinkEnv) (place place' : ℕ → ℕ) (w w' : Work) : Prop where
  row : w.row = w'.row
  stmt : w.stmt.timeless = w'.stmt.timeless
  place : place w.pos = place' w'.pos
  outcome : ∀ t n, env.outcome w.pos t n = env'.outcome w'.pos t n

/-- Twins are statements of one table. -/
theorem Twins.key {w w' : Work} (h : Twins env env' place place' w w') :
    w.stmt.key = w'.stmt.key := by
  rw [← timeless_key, h.stmt, timeless_key]

/-- All their attempts have the same outcomes. -/
theorem Twins.attempt {w w' : Work} (h : Twins env env' place place' w w') (n : ℕ) :
    env.outcome w.pos w.stmt.key n = env'.outcome w'.pos w'.stmt.key n := by
  rw [h.outcome, h.key]

/-- Executions of twins are the same. -/
theorem Twins.execution {w w' : Work} (h : Twins env env' place place' w w') (n : ℕ) (ok : Bool) :
    Execution.timeless place ⟨w.pos, w.stmt, n, ok⟩ =
      Execution.timeless place' ⟨w'.pos, w'.stmt, n, ok⟩ := by
  rw [Execution.timeless, Execution.timeless, h.place, h.stmt]

/-- Twins are retried alike. -/
theorem Twins.retryTrial {w w' : Work} (h : Twins env env' place place' w w')
    (ha : Alike env env' conf conf') : retryTrial env conf w = retryTrial env' conf' w' := by
  unfold Streaming.retryTrial
  rw [ha.attemptBudget]
  simp only [h.attempt]

/-- Twins do the same on the fast path. -/
theorem view_fastTally {w w' : Work} (h : Twins env env' place place' w w') :
    view place (fastTally env w) = view place' (fastTally env' w') := by
  unfold fastTally
  rw [h.attempt]
  cases env'.outcome w'.pos w'.stmt.key 0 <;> simp [view_apply, h.execution]

/-- Twins do the same on the retry path. -/
theorem view_retryTally {w w' : Work} (h : Twins env env' place place' w w')
    (ha : Alike env env' conf conf') :
    view place (retryTally env conf w) = view place' (retryTally env' conf' w') := by
  have hexec : (retryExecutions env conf w : Multiset Execution).map (Execution.timeless place) =
      (retryExecutions env' conf' w' : Multiset Execution).map (Execution.timeless place') := by
    simp only [retryExecutions, h.retryTrial ha, Multiset.map_coe, List.map_map, h.attempt,
      Function.comp_def, h.execution]
  have hexhausted : ∀ r : CallResult Unit, view place (exhaustedTally env conf w r) =
      view place' (exhaustedTally env' conf' w' r) := by
    intro r
    cases r with
    | exhausted attempts last =>
        simp only [exhaustedTally, h.row]
        exact view_quarantineTally ha h.place (congrArg some h.key) _ _ _ _
    | returned u => exact (map_zero _).trans (map_zero _).symm
    | raised e => exact (map_zero _).trans (map_zero _).symm
  unfold retryTally
  rw [map_add, map_add, h.retryTrial ha, ha.attemptBudget, hexhausted]
  congr 1
  simp [view_apply, hexec]

/-- Twins do the same. -/
theorem view_stmtTally {w w' : Work} (h : Twins env env' place place' w w')
    (ha : Alike env env' conf conf') :
    view place (stmtTally env conf w) = view place' (stmtTally env' conf' w') := by
  unfold stmtTally failure?
  rw [map_add, map_add, view_fastTally h, h.attempt]
  cases env'.outcome w'.pos w'.stmt.key 0 with
  | ok u => simp
  | error e =>
      simp only [Option.map_some, Option.getD_some, lateTally, h.row]
      by_cases hperm : e.isInstance permanent = true
      · simp only [hperm, if_true]
        rw [view_quarantineTally ha (o := w.origin) (u := w'.origin) h.place
          (congrArg some h.key)]
      · simp only [hperm, Bool.false_eq_true, if_false]
        rw [view_retryTally h ha]

/-! ## One row -/

section row

variable {r : StreamRow} {i i' : ℕ}

/-- Building a row does the same in the same place. -/
theorem view_buildTally (ha : Alike env env' conf conf') (hplace : place i = place' i')
    (t t' : ℤ) :
    view place (buildTally env conf t (r, i)) = view place' (buildTally env' conf' t' (r, i')) := by
  have htime := buildStatements_timeless r.asDict conf.tables t t'
  unfold buildTally
  rw [← ha.tables]
  cases hb : buildStatements r.asDict conf.tables t <;>
    cases hb' : buildStatements r.asDict conf.tables t' <;>
      simp only [hb, hb', Except.map, reduceCtorEq, Except.error.injEq] at htime
  · subst htime
    dsimp only
    split_ifs
    · rw [map_add, map_add, view_quarantineTally ha (o := ⟨i, none⟩) (u := ⟨i', none⟩) hplace rfl]
      rfl
    · exact view_quarantineTally ha (o := ⟨i, none⟩) (u := ⟨i', none⟩) hplace rfl _ _ _ _
  · simp only [map_zero]

/-- The statements of a row do the same in the same place. -/
theorem view_work (ha : Alike env env' conf conf') (hplace : place i = place' i')
    (hout : ∀ t n, env.outcome i t n = env'.outcome i' t n) {stmts stmts' : List Statement}
    (h : stmts.map Statement.timeless = stmts'.map Statement.timeless) :
    view place ((stmts.map fun s => stmtTally env conf ⟨i, r, s⟩).sum) =
      view place' ((stmts'.map fun s => stmtTally env' conf' ⟨i', r, s⟩).sum) := by
  induction stmts generalizing stmts' with
  | nil =>
      obtain rfl : stmts' = [] := by simpa using h.symm
      simp
  | cons s stmts ih =>
      rcases stmts' with _ | ⟨s', stmts'⟩
      · simp at h
      · rw [List.map_cons, List.map_cons, List.cons.injEq] at h
        have htwins : Twins env env' place place' ⟨i, r, s⟩ ⟨i', r, s'⟩ :=
          ⟨rfl, h.1, hplace, hout⟩
        rw [List.map_cons, List.map_cons, List.sum_cons, List.sum_cons, map_add, map_add, ih h.2,
          view_stmtTally htwins ha]

/-- **The tally of a row apart from the clock.** -/
theorem view_rowTally (ha : Alike env env' conf conf') (hplace : place i = place' i')
    (hout : ∀ t n, env.outcome i t n = env'.outcome i' t n) (t t' : ℤ) :
    view place (rowTally env conf t (r, i)) = view place' (rowTally env' conf' t' (r, i')) := by
  have htime := buildStatements_timeless r.asDict conf.tables t t'
  rw [rowTally, rowTally, map_add, map_add, view_buildTally ha hplace t t', rowWork, rowWork]
  congr 1
  rw [← ha.tables]
  cases hb : buildStatements r.asDict conf.tables t <;>
    cases hb' : buildStatements r.asDict conf.tables t' <;>
      simp only [hb, hb', Except.map, reduceCtorEq, Except.ok.injEq] at htime
  · simp
  · simp only [List.map_map]
    exact view_work ha hplace hout htime

/-- Every statement of a row has its twin in the other evaluation. -/
theorem exists_twin (ha : Alike env env' conf conf') (hplace : place i = place' i')
    (hout : ∀ t n, env.outcome i t n = env'.outcome i' t n) (t t' : ℤ) {w' : Work}
    (hw' : w' ∈ rowWork conf' t' (r, i')) :
    ∃ w ∈ rowWork conf t (r, i), Twins env env' place place' w w' := by
  have htime := buildStatements_timeless r.asDict conf.tables t t'
  rw [rowWork, ← ha.tables] at hw'
  rw [rowWork]
  cases hb' : buildStatements r.asDict conf.tables t' with
  | error e => simp [hb'] at hw'
  | ok stmts' =>
      cases hb : buildStatements r.asDict conf.tables t with
      | error e => simp [hb, hb', Except.map] at htime
      | ok stmts =>
          simp only [hb, hb', Except.map, Except.ok.injEq] at htime
          simp only [hb'] at hw'
          obtain ⟨s', hs', rfl⟩ := List.mem_map.mp hw'
          have hmem : s'.timeless ∈ stmts.map Statement.timeless :=
            htime ▸ List.mem_map_of_mem hs'
          obtain ⟨s, hs, heq⟩ := List.mem_map.mp hmem
          exact ⟨_, List.mem_map_of_mem hs, rfl, heq, hplace, hout⟩

/-- A row settles in both evaluations or in none. -/
theorem RowSettles.of_alike (ha : Alike env env' conf conf')
    (hout : ∀ t n, env.outcome i t n = env'.outcome i' t n) {t t' : ℤ}
    (h : RowSettles env conf t (r, i)) : RowSettles env' conf' t' (r, i') := by
  intro w' hw' f hf
  -- the names of the rows do not matter here
  have hplace : Function.const ℕ 0 i = Function.const ℕ 0 i' := rfl
  obtain ⟨w, hw, htwins⟩ := exists_twin ha hplace hout t t' hw'
  have hfail : failure? env w = some (w, f.2) := by
    unfold failure? at hf ⊢
    rw [htwins.attempt]
    cases hfirst : env'.outcome w'.pos w'.stmt.key 0 with
    | ok u => simp [hfirst] at hf
    | error e =>
        simp only [hfirst, Option.some.injEq] at hf
        rw [← hf]
  have hfst : f.1 = w' := failure?_fst hf
  refine (h w hw _ hfail).imp_right fun hend e he => hend e ?_
  rw [htwins.retryTrial ha, ← hfst]
  exact he

end row

end alike

/-! ## A partition -/

/-- A partition is written to its end when its rows settle, at any write time. -/
theorem writePartition_ok_iff (env : SinkEnv) (conf : SinkConf) (rows : List StreamRow) :
    (∃ run, writePartition env conf rows = .ok run) ↔
      ∀ item ∈ rows.zipIdx, RowSettles env conf 0 item := by
  have hsettles : ∀ {item : StreamRow × ℕ} {t t' : ℤ}, RowSettles env conf t item →
      RowSettles env conf t' item := fun h =>
    RowSettles.of_alike ⟨rfl, rfl, rfl, rfl⟩ (fun _ _ => rfl) h
  constructor
  · rintro ⟨run, hrun⟩ item hitem
    obtain ⟨s, -, hall, -⟩ := writePartition_tally env conf hrun
    obtain ⟨chunk, hchunk, hmem⟩ := exists_chunk conf hitem
    exact hsettles (hall chunk hchunk item hmem)
  · intro h
    apply writePartition_of_settles
    intro chunk hchunk item hmem
    have hitem : item ∈ rows.zipIdx := by
      rw [← flatten_batched conf.chunkSize rows.zipIdx]
      exact List.mem_flatten_of_mem hchunk hmem
    exact hsettles (h item hitem)

/-- The view of a partition: the sum over its rows, at any write time. -/
theorem view_total (env : SinkEnv) (conf : SinkConf) (place : ℕ → ℕ) (rows : List StreamRow) :
    view place ((chunks conf rows).map (chunkTally env conf)).sum =
      (rows.zipIdx.map fun item => view place (rowTally env conf 0 item)).sum := by
  apply map_total
  intro chunk _ item _
  exact view_rowTally ⟨rfl, rfl, rfl, rfl⟩ rfl (fun _ _ => rfl) _ _

end TripPipeline.Streaming
