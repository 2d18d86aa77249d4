import TripPipeline.Common.Pause
import TripPipeline.Lib.Trace
import TripPipeline.Streaming.Balance

/-!
# The timeline of a partition

What `write_partition` does to the outside, in order: it executes statements, and it sleeps. The
timeline exists whether the writer ends normally or an exception escapes it, in which case nothing
follows.

* `timeline` puts the phases of all chunks in a row: the first executions of a chunk, then the retry
  loops of its failures one after the other.
* `writePartition_timeline`: it is the timeline of `writePartition`. They end alike, and the
  executions on it are the log.
* `own_timeline`: the moments of one statement. Its first execution, and then its retry loop, unless
  an earlier statement (`statements` has their order) let an exception escape.
-/

namespace TripPipeline.Streaming

open TripPipeline.Common TripPipeline.Lib

/-! ## Moments -/

/-- An execution of a statement, or a sleep of its retry loop. -/
structure Moment where
  origin : Origin
  beat : Beat Execution

/-- The execution, if it is one. -/
def Moment.execution? (m : Moment) : Option Execution := m.beat.call?

/-- The moment belongs to the statement. -/
def Moment.isOf (o : Origin) (m : Moment) : Bool := decide (m.origin = o)

section timeline

variable (env : SinkEnv) (conf : SinkConf)

/-- The first execution of a statement. -/
def firstMoment (w : Work) : Moment :=
  ⟨w.origin, .call ⟨w.pos, w.stmt, 0, (env.outcome w.pos w.stmt.key 0).isOk⟩⟩

/-- The `k`-th execution of the retry loop of a statement. -/
def retryExecution (w : Work) (k : ℕ) : Execution :=
  ⟨w.pos, w.stmt, k + 1, (env.outcome w.pos w.stmt.key (k + 1)).isOk⟩

/-- The call of `call_with_retry` for a statement. -/
def retryCall (w : Work) : CallResult Unit × List (Beat Execution) :=
  sleepCall (fun k beats => (env.outcome w.pos w.stmt.key (k + 1),
      beats ++ [.call (retryExecution env w k)]))
    (fun seconds beats => beats ++ [.slept seconds]) (retryPolicy conf.retry) retryable permanent
    (env.draw w.pos w.stmt.key) []

/-- Retry path, one failure. -/
def retryTrace (f : Work × Exc) : Trace Moment Exc :=
  if f.2.isInstance permanent then .done []
  else
    ⟨(retryCall env conf f.1).2.map (Moment.mk f.1.origin),
      match (retryCall env conf f.1).1 with
      | .raised e => some e
      | _ => none⟩

/-- The statements of a chunk, in the order of the `work` list. -/
def chunkWork (chunk : List (StreamRow × ℕ)) : List Work :=
  chunk.flatMap (rowWork conf (chunkTime env chunk))

/-- One turn of the loop over the chunks. -/
def chunkTrace (chunk : List (StreamRow × ℕ)) : Trace Moment Exc :=
  (Trace.done ((chunkWork env conf chunk).map (firstMoment env))).andThen
    (.all (((chunkWork env conf chunk).filterMap (failure? env)).map (retryTrace env conf)))

/-- What the writer does to the outside. -/
def timeline (rows : List StreamRow) : Trace Moment Exc :=
  .all ((chunks conf rows).map (chunkTrace env conf))

/-! ## It is the timeline of the writer -/

/-- Building executes nothing. -/
theorem foldl_buildRow_log (ingestedAtMs : ℤ) (chunk : List (StreamRow × ℕ))
    (acc : SinkState × List Work) :
    (chunk.foldl (buildRow env conf ingestedAtMs) acc).1.log = acc.1.log := by
  induction chunk generalizing acc with
  | nil => rfl
  | cons item chunk ih =>
      rw [List.foldl_cons, ih]
      unfold buildRow
      split
      · unfold SinkState.sample
        dsimp only
        split_ifs <;> rfl
      · split_ifs <;> rfl

/-- The fast path executes each statement once. -/
theorem foldl_fastPath_log (work : List Work) (acc : SinkState × List (Work × Exc)) :
    (work.foldl (fastPath env) acc).1.log =
      acc.1.log ++ (work.map (firstMoment env)).filterMap Moment.execution? := by
  induction work generalizing acc with
  | nil => exact (List.append_nil _).symm
  | cons w work ih =>
      have hone : (fastPath env acc w).1.log =
          acc.1.log ++ [firstMoment env w].filterMap Moment.execution? := by
        unfold fastPath firstMoment
        cases env.outcome w.pos w.stmt.key 0 <;> rfl
      rw [List.foldl_cons, ih, hone, List.append_assoc, ← List.filterMap_append]
      rfl

/-- The call ends as the trial of the statement, and its beats are the executions of the trial with
the waits of the schedule. -/
theorem retryCall_eq (w : Work) :
    retryCall env conf w =
      ((retryTrial env conf w).result (attemptBudget (retryPolicy conf.retry)) 0,
        spaced (retryExecution env w)
          (fun k => delayMs (retryPolicy conf.retry) (env.draw w.pos w.stmt.key k) k / 1000) 0
          (retryTrial env conf w).calls) := by
  rw [retryCall, sleepCall, sleepLoop_beats fun _ _ => rfl]
  rfl

/-- The calls of the retry loop are the executions of its statement. -/
theorem retryCall_executions (w : Work) :
    (retryCall env conf w).2.filterMap Beat.call? = retryExecutions env conf w := by
  rw [retryCall_eq, calls_spaced]
  rfl

/-- The log of the retry path is what its trace executes. -/
theorem records_retryPath (s : SinkState) (f : Work × Exc) :
    Records SinkState.log Moment.execution? s (retryTrace env conf f) (retryPath env conf s f) := by
  obtain ⟨w, e⟩ := f
  unfold retryTrace retryPath
  by_cases hperm : e.isInstance permanent = true
  · simp only [hperm, if_true]
    exact ⟨rfl, (List.append_nil _).symm⟩
  · have hlog : ((retryCall env conf w).2.map (Moment.mk w.origin)).filterMap Moment.execution? =
        retryExecutions env conf w := by
      rw [List.filterMap_map, ← retryCall_executions]
      rfl
    simp only [hperm, Bool.false_eq_true, if_false, callWithRetry_execute]
    have hresult : (retryCall env conf w).1 =
        (retryTrial env conf w).result (attemptBudget (retryPolicy conf.retry)) 0 := by
      rw [retryCall_eq]
    rw [← hresult]
    cases (retryCall env conf w).1 with
    | returned u => exact ⟨rfl, by rw [hlog]⟩
    | exhausted attempts last => exact ⟨rfl, by rw [hlog]; rfl⟩
    | raised e' => exact rfl

/-- The log of a chunk is what its trace executes. -/
theorem records_writeChunk (s : SinkState) (chunk : List (StreamRow × ℕ)) :
    Records SinkState.log Moment.execution? s (chunkTrace env conf chunk)
      (writeChunk env conf s chunk) := by
  obtain ⟨-, hwork⟩ := foldl_buildRow env conf (chunkTime env chunk) chunk (s, [])
  have hbuilt := foldl_buildRow_log env conf (chunkTime env chunk) chunk (s, [])
  unfold writeChunk chunkTrace
  generalize chunk.foldl (buildRow env conf (chunkTime env chunk)) (s, []) = built at hwork hbuilt
  obtain ⟨s₁, work⟩ := built
  dsimp only at hwork hbuilt ⊢
  rw [List.nil_append] at hwork
  obtain rfl : work = chunkWork env conf chunk := hwork
  rw [Trace.andThen_of_none rfl]
  by_cases hempty : (chunkWork env conf chunk).isEmpty = true
  · rw [if_pos hempty, List.isEmpty_iff.mp hempty]
    exact ⟨rfl, by rw [hbuilt]; exact (List.append_nil _).symm⟩
  · rw [if_neg hempty]
    obtain ⟨-, hfail⟩ := foldl_fastPath env (chunkWork env conf chunk) (s₁, [])
    have hfast := foldl_fastPath_log env (chunkWork env conf chunk) (s₁, [])
    generalize (chunkWork env conf chunk).foldl (fastPath env) (s₁, []) = fast at hfail hfast
    obtain ⟨s₂, failures⟩ := fast
    dsimp only at hfail hfast ⊢
    rw [List.nil_append] at hfail
    subst hfail
    refine (Records.foldlM (records_retryPath env conf) _ s₂).imp ?_ fun e he => he
    rintro s' ⟨hnone, hlog⟩
    refine ⟨hnone, ?_⟩
    rw [hlog, hfast, hbuilt, List.filterMap_append, List.append_assoc]
    rfl

/-- **The timeline is that of the writer**: both end alike, and its executions are the log. -/
theorem writePartition_timeline (rows : List StreamRow) :
    Ends (fun run : PartitionRun => (timeline env conf rows).raised = none ∧
        run.log = (timeline env conf rows).moments.filterMap Moment.execution?)
      (fun e => (timeline env conf rows).raised = some e) (writePartition env conf rows) := by
  refine Ends.bind (Records.foldlM (records_writeChunk env conf) (chunks conf rows) .init) ?_
  rintro s ⟨hnone, hlog⟩
  exact ⟨hnone, hlog.trans (List.nil_append _)⟩

/-! ## The statements of a partition -/

/-- The statements, in the order of their first executions and of their retry loops. -/
def statements (rows : List StreamRow) : List Work :=
  (chunks conf rows).flatMap (chunkWork env conf)

/-- The statements of a partition are those of its rows. -/
theorem statements_origin (rows : List StreamRow) :
    (statements env conf rows).map Work.origin = rows.zipIdx.flatMap (builtStatements conf) := by
  have hchunk : ∀ chunk, (chunkWork env conf chunk).map Work.origin =
      chunk.flatMap (builtStatements conf) := by
    intro chunk
    rw [chunkWork, List.map_flatMap]
    exact congrArg (List.flatMap · chunk) (funext fun item => rowWork_origin conf _ item)
  have hrows : rows.zipIdx = (chunks conf rows).flatten := (flatten_batched _ _).symm
  rw [statements, List.map_flatMap, hrows, ← List.flatMap_id, List.flatMap_assoc]
  exact congrArg (List.flatMap · (chunks conf rows)) (funext hchunk)

/-- No two statements have the same origin. -/
theorem nodup_statements (rows : List StreamRow) :
    ((statements env conf rows).map Work.origin).Nodup := by
  rw [statements_origin]
  exact nodup_builtStatements conf rows

/-- A failure of the statement is settled by its retry path. -/
def Passes (w : Work) : Prop := ∀ f, failure? env w = some f → Settles env conf f

/-- The retry path of a statement; nothing when its first execution succeeds. -/
def lateTrace (w : Work) : Trace Moment Exc :=
  ((failure? env w).map (retryTrace env conf)).getD (.done [])

/-- The retry path raises unless the statement is settled. -/
theorem raised_retryTrace (f : Work × Exc) :
    (retryTrace env conf f).raised = none ↔ Settles env conf f := by
  unfold retryTrace Settles
  by_cases hperm : f.2.isInstance permanent = true
  · simp [hperm]
  · simp only [hperm, Bool.false_eq_true, if_false, false_or, retryCall_eq, Trial.result]
    cases (retryTrial env conf f.1).ending <;> simp

/-- **An exception escapes from the retry path of a statement iff it does not pass.** -/
theorem raised_lateTrace (w : Work) : (lateTrace env conf w).raised = none ↔ Passes env conf w := by
  unfold lateTrace Passes
  cases failure? env w with
  | none => simp
  | some f => simpa using raised_retryTrace env conf f

/-- The moments of a statement's retry path are about it. -/
theorem lateTrace_origin {w : Work} {m : Moment} (h : m ∈ (lateTrace env conf w).moments) :
    m.origin = w.origin := by
  unfold lateTrace at h
  cases hf : failure? env w with
  | none =>
      rw [hf] at h
      cases h
  | some f =>
      obtain rfl := failure?_fst hf
      rw [hf] at h
      simp only [Option.map_some, Option.getD_some, retryTrace] at h
      split_ifs at h
      · cases h
      · obtain ⟨b, -, rfl⟩ := List.mem_map.mp h
        rfl

/-- The retry loops, over the statements instead of the failures. -/
theorem all_retryTrace (work : List Work) :
    Trace.all ((work.filterMap (failure? env)).map (retryTrace env conf)) =
      Trace.all (work.map (lateTrace env conf)) := by
  induction work with
  | nil => rfl
  | cons w work ih =>
      rw [List.filterMap_cons, List.map_cons, Trace.all_cons, ← ih, lateTrace]
      cases failure? env w <;> rfl

/-- The parts of the timeline that stem from a chunk. -/
def chunkParts (chunk : List (StreamRow × ℕ)) : List (Trace Moment Exc) :=
  .done ((chunkWork env conf chunk).map (firstMoment env)) ::
    (chunkWork env conf chunk).map (lateTrace env conf)

/-- The timeline of a partition is that of its chunks, one behind the other. -/
theorem timeline_eq (rows : List StreamRow) :
    timeline env conf rows = .all ((chunks conf rows).flatMap (chunkParts env conf)) := by
  rw [timeline, ← Trace.all_flatMap]
  refine congrArg Trace.all (List.map_congr_left fun chunk _ => ?_)
  rw [chunkTrace, all_retryTrace]
  rfl

/-! ## One statement -/

/-- The moments of a statement on the timeline. -/
def own (rows : List StreamRow) (w : Work) : List Moment :=
  (timeline env conf rows).moments.filter (Moment.isOf w.origin)

/-- The first moment of a statement is about it. -/
theorem isOf_firstMoment (w : Work) : (firstMoment env w).isOf w.origin = true :=
  decide_eq_true rfl

/-- The first moments of other statements are not about this one. -/
theorem filter_firstMoment {work : List Work} {o : Origin} (h : ∀ v ∈ work, v.origin ≠ o) :
    (work.map (firstMoment env)).filter (Moment.isOf o) = [] := by
  rw [List.filter_eq_nil_iff]
  intro m hm hof
  obtain ⟨v, hv, rfl⟩ := List.mem_map.mp hm
  exact h v hv (of_decide_eq_true hof)

/-- The retry path of another statement is not about this one. -/
theorem filter_lateTrace {v : Work} {o : Origin} (h : v.origin ≠ o) :
    (lateTrace env conf v).moments.filter (Moment.isOf o) = [] := by
  rw [List.filter_eq_nil_iff]
  intro m hm hof
  exact h ((lateTrace_origin env conf hm).symm.trans (of_decide_eq_true hof))

/-- The retry paths of other statements are not about this one. -/
theorem filter_lateTraces {work : List Work} {o : Origin} (h : ∀ v ∈ work, v.origin ≠ o) :
    ∀ t ∈ work.map (lateTrace env conf), t.moments.filter (Moment.isOf o) = [] := by
  intro t ht
  obtain ⟨v, hv, rfl⟩ := List.mem_map.mp ht
  exact filter_lateTrace env conf (h v hv)

/-- A retry path is of its own statement. -/
theorem filter_lateTrace_self (w : Work) :
    (lateTrace env conf w).moments.filter (Moment.isOf w.origin) =
      (lateTrace env conf w).moments :=
  List.filter_eq_self.mpr fun _ hm => decide_eq_true (lateTrace_origin env conf hm)

/-- The chunks without the statement have no moment of it. -/
theorem filter_chunkParts {cs : List (List (StreamRow × ℕ))} {o : Origin}
    (h : ∀ v ∈ cs.flatMap (chunkWork env conf), v.origin ≠ o) :
    ∀ t ∈ cs.flatMap (chunkParts env conf), t.moments.filter (Moment.isOf o) = [] := by
  intro t ht
  obtain ⟨chunk, hchunk, ht⟩ := List.mem_flatMap.mp ht
  have hwork : ∀ v ∈ chunkWork env conf chunk, v.origin ≠ o :=
    fun v hv => h v (List.mem_flatMap.mpr ⟨chunk, hchunk, hv⟩)
  rcases List.mem_cons.mp ht with rfl | ht
  · exact filter_firstMoment env hwork
  · exact filter_lateTraces env conf hwork t ht

/-- Among its neighbours in the chunk, a statement is executed for the first time once. -/
theorem filter_firstMoments {p q : List Work} {w : Work} (hp : ∀ v ∈ p, v.origin ≠ w.origin)
    (hq : ∀ v ∈ q, v.origin ≠ w.origin) :
    ((p ++ w :: q).map (firstMoment env)).filter (Moment.isOf w.origin) = [firstMoment env w] := by
  rw [List.map_append, List.map_cons, List.filter_append, filter_firstMoment env hp,
    List.filter_cons_of_pos (isOf_firstMoment env w), filter_firstMoment env hq]
  rfl

/-- Retry paths raise nothing iff their statements pass. -/
theorem raised_lateTraces (work : List Work) :
    (Trace.all (work.map (lateTrace env conf))).raised = none ↔ ∀ v ∈ work, Passes env conf v := by
  rw [Trace.raised_all, List.forall_mem_map]
  exact forall₂_congr fun v _ => raised_lateTrace env conf v

/-- Chunks raise nothing iff all their statements pass. -/
theorem raised_chunkParts (cs : List (List (StreamRow × ℕ))) :
    (Trace.all (cs.flatMap (chunkParts env conf))).raised = none ↔
      ∀ v ∈ cs.flatMap (chunkWork env conf), Passes env conf v := by
  rw [Trace.raised_all]
  constructor
  · intro h v hv
    obtain ⟨chunk, hchunk, hv⟩ := List.mem_flatMap.mp hv
    rw [← raised_lateTrace]
    exact h _ (List.mem_flatMap.mpr
      ⟨chunk, hchunk, List.mem_cons_of_mem _ (List.mem_map_of_mem hv)⟩)
  · intro h t ht
    obtain ⟨chunk, hchunk, ht⟩ := List.mem_flatMap.mp ht
    rcases List.mem_cons.mp ht with rfl | ht
    · rfl
    · obtain ⟨v, hv, rfl⟩ := List.mem_map.mp ht
      exact (raised_lateTrace env conf v).mpr (h v (List.mem_flatMap.mpr ⟨chunk, hchunk, hv⟩))

/-- **An exception escapes the writer iff some statement does not pass.** -/
theorem raised_timeline (rows : List StreamRow) :
    (timeline env conf rows).raised = none ↔ ∀ v ∈ statements env conf rows, Passes env conf v := by
  rw [timeline_eq, raised_chunkParts]
  rfl

/-- **The moments of a statement**: its first execution and its retry path, when all earlier
statements pass. Otherwise its retry path is not reached, and maybe not even its chunk. -/
theorem own_timeline {rows : List StreamRow} {pre post : List Work} {w : Work}
    (h : statements env conf rows = pre ++ w :: post) :
    ((∀ v ∈ pre, Passes env conf v) →
        own env conf rows w = firstMoment env w :: (lateTrace env conf w).moments) ∧
      ((∃ v ∈ pre, ¬Passes env conf v) →
        own env conf rows w = [] ∨ own env conf rows w = [firstMoment env w]) := by
  have hnodup := nodup_statements env conf rows
  rw [h, List.map_append, List.map_cons, List.nodup_middle, List.nodup_cons,
    ← List.map_append] at hnodup
  have hother : ∀ v ∈ pre ++ post, v.origin ≠ w.origin :=
    fun v hv heq => hnodup.1 (heq ▸ List.mem_map_of_mem hv)
  obtain ⟨cs₁, chunk, cs₂, p, q, hchunks, hwork, rfl, rfl⟩ := flatMap_eq_split h
  have hcs₁ : ∀ v ∈ cs₁.flatMap (chunkWork env conf), v.origin ≠ w.origin :=
    fun v hv => hother v (by simp only [List.mem_append]; exact Or.inl (Or.inl hv))
  have hp : ∀ v ∈ p, v.origin ≠ w.origin :=
    fun v hv => hother v (by simp only [List.mem_append]; exact Or.inl (Or.inr hv))
  have hq : ∀ v ∈ q, v.origin ≠ w.origin :=
    fun v hv => hother v (by simp only [List.mem_append]; exact Or.inr (Or.inl hv))
  have hcs₂ : ∀ v ∈ cs₂.flatMap (chunkWork env conf), v.origin ≠ w.origin :=
    fun v hv => hother v (by simp only [List.mem_append]; exact Or.inr (Or.inr hv))
  -- the earlier chunks, the first executions of the chunk, and its retry paths
  have hparts : (chunks conf rows).flatMap (chunkParts env conf) =
      cs₁.flatMap (chunkParts env conf) ++
        (.done ((chunkWork env conf chunk).map (firstMoment env)) ::
          (p.map (lateTrace env conf) ++ lateTrace env conf w ::
            (q.map (lateTrace env conf) ++ cs₂.flatMap (chunkParts env conf)))) := by
    rw [hchunks, List.flatMap_append, List.flatMap_cons, chunkParts, hwork]
    simp
  have hafter : ∀ t ∈ q.map (lateTrace env conf) ++ cs₂.flatMap (chunkParts env conf),
      t.moments.filter (Moment.isOf w.origin) = [] := by
    intro t ht
    rcases List.mem_append.mp ht with ht | ht
    · exact filter_lateTraces env conf hq t ht
    · exact filter_chunkParts env conf hcs₂ t ht
  have hbefore := Trace.filter_all_eq_nil (filter_chunkParts env conf hcs₁)
  have hchunk : (∀ v ∈ cs₁.flatMap (chunkWork env conf), Passes env conf v) →
      own env conf rows w = firstMoment env w ::
        if (Trace.all (p.map (lateTrace env conf))).raised.isNone then
          (lateTrace env conf w).moments
        else [] := by
    intro hall
    rw [own, timeline_eq, hparts, Trace.all_append,
      Trace.andThen_of_none ((raised_chunkParts env conf cs₁).mpr hall), List.filter_append,
      hbefore, Trace.all_cons, Trace.andThen_of_none rfl, List.filter_append, Trace.done_moments,
      hwork, filter_firstMoments env hp hq,
      Trace.filter_all_split _ (filter_lateTraces env conf hp) hafter, filter_lateTrace_self]
    rfl
  constructor
  · intro hpass
    rw [hchunk fun v hv => hpass v (List.mem_append_left _ hv),
      (raised_lateTraces env conf p).mpr fun v hv => hpass v (List.mem_append_right _ hv)]
    rfl
  · rintro ⟨v, hv, hfail⟩
    by_cases hall : ∀ v ∈ cs₁.flatMap (chunkWork env conf), Passes env conf v
    · right
      have hraised : (Trace.all (p.map (lateTrace env conf))).raised ≠ none := by
        intro hnone
        rcases List.mem_append.mp hv with hv | hv
        · exact hfail (hall v hv)
        · exact hfail ((raised_lateTraces env conf p).mp hnone v hv)
      rw [hchunk hall, if_neg (by rwa [Option.isNone_iff_eq_none])]
    · left
      rw [own, timeline_eq, hparts, Trace.all_append,
        Trace.andThen_of_ne_none (mt (raised_chunkParts env conf cs₁).mp hall), hbefore]

end timeline

end TripPipeline.Streaming
