import Mathlib.Algebra.Group.Submonoid.BigOperators
import TripPipeline.Streaming.Sink

/-!
# The ledger of the partition writer

The writer updates eight counters and a merged `RetryStats` by hand, on five exit paths, over any
number of chunks. This module says what it computes without the loops:

* **Tallies.** `Tally` collects everything the accumulators say, up to order. Tallies form a
  commutative monoid, so the order in which the writer visits rows, statements and failures is
  forgotten.
* **Local tallies.** `rowTally` is the tally of one row: a function of the row and of the outcomes
  of its own statements, read off the trial of each statement.
* **The sum** (`writePartition_tally`). The accumulators at the end are the sum of the tallies of
  the rows. Every law of the ledger is then checked on one statement and summed.

The laws are `Tally.Balanced` (the identities between the counters), `settlements_stmtTally` (a
statement is settled once) and `written_or_quarantined` (no row is lost).
-/

namespace TripPipeline.Streaming

open TripPipeline.Common TripPipeline.Lib

/-! ## Tallies -/

/-- What the accumulators of the writer say, up to order. -/
@[ext] structure Tally where
  rowsWritten : ℕ
  dlqEmitted : ℕ
  validationRejects : ℕ
  retriedWrites : ℕ
  retriedWritesRetries : ℕ
  attempts : ℕ
  successes : ℕ
  failuresExhausted : ℕ
  retriesBeforeSuccess : ℕ
  reasons : Multiset String
  /-- The yielded `dlq` tuples. -/
  quarantined : Multiset (Origin × PyVal × DLQRecord)
  /-- The number of yielded tuples of another kind. -/
  others : ℕ
  executions : Multiset Execution

namespace Tally

instance : Zero Tally := ⟨⟨0, 0, 0, 0, 0, 0, 0, 0, 0, 0, 0, 0, 0⟩⟩

instance : Add Tally where
  add a b :=
    { rowsWritten := a.rowsWritten + b.rowsWritten
      dlqEmitted := a.dlqEmitted + b.dlqEmitted
      validationRejects := a.validationRejects + b.validationRejects
      retriedWrites := a.retriedWrites + b.retriedWrites
      retriedWritesRetries := a.retriedWritesRetries + b.retriedWritesRetries
      attempts := a.attempts + b.attempts
      successes := a.successes + b.successes
      failuresExhausted := a.failuresExhausted + b.failuresExhausted
      retriesBeforeSuccess := a.retriesBeforeSuccess + b.retriesBeforeSuccess
      reasons := a.reasons + b.reasons
      quarantined := a.quarantined + b.quarantined
      others := a.others + b.others
      executions := a.executions + b.executions }

section fields

variable (a b : Tally)

/-- The empty tally has written no row. -/
@[simp] theorem zero_rowsWritten : (0 : Tally).rowsWritten = 0 := rfl
/-- The empty tally has quarantined nothing. -/
@[simp] theorem zero_dlqEmitted : (0 : Tally).dlqEmitted = 0 := rfl
/-- The empty tally has rejected nothing. -/
@[simp] theorem zero_validationRejects : (0 : Tally).validationRejects = 0 := rfl
/-- The empty tally has no retried write. -/
@[simp] theorem zero_retriedWrites : (0 : Tally).retriedWrites = 0 := rfl
/-- The empty tally has no retry. -/
@[simp] theorem zero_retriedWritesRetries : (0 : Tally).retriedWritesRetries = 0 := rfl
/-- The empty tally has no attempt. -/
@[simp] theorem zero_attempts : (0 : Tally).attempts = 0 := rfl
/-- The empty tally has no success. -/
@[simp] theorem zero_successes : (0 : Tally).successes = 0 := rfl
/-- The empty tally has nothing exhausted. -/
@[simp] theorem zero_failuresExhausted : (0 : Tally).failuresExhausted = 0 := rfl
/-- The empty tally has no retry before a success. -/
@[simp] theorem zero_retriesBeforeSuccess : (0 : Tally).retriesBeforeSuccess = 0 := rfl
/-- The empty tally has no reason. -/
@[simp] theorem zero_reasons : (0 : Tally).reasons = 0 := rfl
/-- The empty tally has no record. -/
@[simp] theorem zero_quarantined : (0 : Tally).quarantined = 0 := rfl
/-- The empty tally has no other yield. -/
@[simp] theorem zero_others : (0 : Tally).others = 0 := rfl
/-- The empty tally has executed nothing. -/
@[simp] theorem zero_executions : (0 : Tally).executions = 0 := rfl

/-- Tallies add up their written rows. -/
@[simp] theorem add_rowsWritten : (a + b).rowsWritten = a.rowsWritten + b.rowsWritten := rfl
/-- Tallies add up what they quarantined. -/
@[simp] theorem add_dlqEmitted : (a + b).dlqEmitted = a.dlqEmitted + b.dlqEmitted := rfl
/-- Tallies add up what they rejected. -/
@[simp] theorem add_validationRejects :
    (a + b).validationRejects = a.validationRejects + b.validationRejects := rfl
/-- Tallies add up their retried writes. -/
@[simp] theorem add_retriedWrites : (a + b).retriedWrites = a.retriedWrites + b.retriedWrites := rfl
/-- Tallies add up their retries. -/
@[simp] theorem add_retriedWritesRetries :
    (a + b).retriedWritesRetries = a.retriedWritesRetries + b.retriedWritesRetries := rfl
/-- Tallies add up their attempts. -/
@[simp] theorem add_attempts : (a + b).attempts = a.attempts + b.attempts := rfl
/-- Tallies add up their successes. -/
@[simp] theorem add_successes : (a + b).successes = a.successes + b.successes := rfl
/-- Tallies add up what was exhausted. -/
@[simp] theorem add_failuresExhausted :
    (a + b).failuresExhausted = a.failuresExhausted + b.failuresExhausted := rfl
/-- Tallies add up the retries before a success. -/
@[simp] theorem add_retriesBeforeSuccess :
    (a + b).retriesBeforeSuccess = a.retriesBeforeSuccess + b.retriesBeforeSuccess := rfl
/-- Tallies add up their reasons. -/
@[simp] theorem add_reasons : (a + b).reasons = a.reasons + b.reasons := rfl
/-- Tallies add up their records. -/
@[simp] theorem add_quarantined : (a + b).quarantined = a.quarantined + b.quarantined := rfl
/-- Tallies add up their other yields. -/
@[simp] theorem add_others : (a + b).others = a.others + b.others := rfl
/-- Tallies add up their executions. -/
@[simp] theorem add_executions : (a + b).executions = a.executions + b.executions := rfl

end fields

instance : AddCommMonoid Tally where
  add_assoc a b c := by ext1 <;> exact add_assoc _ _ _
  zero_add a := by ext1 <;> exact zero_add _
  add_zero a := by ext1 <;> exact add_zero _
  add_comm a b := by ext1 <;> exact add_comm _ _
  nsmul := nsmulRec

end Tally

/-- A yielded `dlq` tuple. -/
def SinkTuple.record? : SinkTuple → Option (Origin × PyVal × DLQRecord)
  | .dlq o key value => some (o, key, value)
  | .stats _ => none

/-- The tally of the accumulators. -/
def SinkState.tally (s : SinkState) : Tally where
  rowsWritten := s.rowsWritten
  dlqEmitted := s.dlqEmitted
  validationRejects := s.validationRejects
  retriedWrites := s.retriedWrites
  retriedWritesRetries := s.retriedWritesRetries
  attempts := s.stats.attempts
  successes := s.stats.successes
  failuresExhausted := s.stats.failuresExhausted
  retriesBeforeSuccess := s.stats.retriesBeforeSuccess
  reasons := s.stats.failureReasons.toMultiset
  quarantined := s.yields.filterMap SinkTuple.record?
  others := s.yields.countP fun y => y.record?.isNone
  executions := s.log

/-- At the beginning nothing is on the tally. -/
@[simp] theorem SinkState.tally_init : SinkState.init.tally = 0 := rfl

/-! ## Local tallies -/

section tallies

variable (env : SinkEnv) (conf : SinkConf)

/-- One quarantined row or statement. -/
def quarantineTally (o : Origin) (r : StreamRow) (reason stage : String) (retryCount : ℕ) : Tally :=
  let rec' := sinkRecord env conf o r reason stage retryCount
  { (0 : Tally) with dlqEmitted := 1, quarantined := {(o, rec'.key, rec')} }

/-- One row refused by `_validate`. -/
def defectTally : Tally := { (0 : Tally) with validationRejects := 1 }

/-- The statements of a row that join the work list. -/
def rowWork (ingestedAtMs : ℤ) (item : StreamRow × ℕ) : List Work :=
  match buildStatements item.1.asDict conf.tables ingestedAtMs with
  | .ok stmts => stmts.map (⟨item.2, item.1, ·⟩)
  | .error _ => []

/-- The build phase of a row. -/
def buildTally (ingestedAtMs : ℤ) (item : StreamRow × ℕ) : Tally :=
  match buildStatements item.1.asDict conf.tables ingestedAtMs with
  | .ok _ => 0
  | .error e =>
      if e.isInstance [.permanentDefect] then
        quarantineTally env conf ⟨item.2, none⟩ item.1 ("PermanentDefect: " ++ e.text)
          stageParse 0 + defectTally
      else quarantineTally env conf ⟨item.2, none⟩ item.1 e.reason stageParse 0

/-- The first execution of a statement. -/
def fastTally (w : Work) : Tally :=
  match env.outcome w.pos w.stmt.key 0 with
  | .ok () =>
      { (0 : Tally) with
        rowsWritten := 1
        attempts := 1
        successes := 1
        executions := {⟨w.pos, w.stmt, 0, true⟩} }
  | .error e =>
      { (0 : Tally) with
        attempts := 1
        reasons := {e.name}
        executions := {⟨w.pos, w.stmt, 0, false⟩} }

/-- The statement's failure, when its first execution fails. -/
def failure? (w : Work) : Option (Work × Exc) :=
  match env.outcome w.pos w.stmt.key 0 with
  | .ok () => none
  | .error e => some (w, e)

/-- The trial of the retry loop of a statement. -/
def retryTrial (w : Work) : Trial Unit :=
  trial (fun k => env.outcome w.pos w.stmt.key (k + 1)) retryable permanent
    (attemptBudget (retryPolicy conf.retry) - 1) 0

/-- The executions of the retry loop of a statement. -/
def retryExecutions (w : Work) : List Execution :=
  (List.range' 0 (retryTrial env conf w).calls).map fun k =>
    ⟨w.pos, w.stmt, k + 1, (env.outcome w.pos w.stmt.key (k + 1)).isOk⟩

/-- The record of a statement whose retries are exhausted. -/
def exhaustedTally (w : Work) : CallResult Unit → Tally
  | .exhausted attempts last =>
      quarantineTally env conf w.origin w.row last.reason stageCassandraSink (attempts + 1)
  | _ => 0

/-- The retry loop of a statement. -/
def retryTally (w : Work) : Tally :=
  let t := retryTrial env conf w
  { (0 : Tally) with
    rowsWritten := t.wins
    retriedWrites := t.wins
    retriedWritesRetries := t.wins * (t.errors.length + 1)
    attempts := t.calls
    successes := t.wins
    failuresExhausted := t.losses
    retriesBeforeSuccess := t.wins * (t.errors.length + 1)
    reasons := t.errors.map Exc.name
    executions := retryExecutions env conf w } +
  exhaustedTally env conf w (t.result (attemptBudget (retryPolicy conf.retry)) 0)

/-- The retry path of a failure. -/
def lateTally (f : Work × Exc) : Tally :=
  if f.2.isInstance permanent then
    quarantineTally env conf f.1.origin f.1.row f.2.reason stageCassandraSink 0
  else retryTally env conf f.1

/-- A statement: its first execution, and the retry path if that fails. -/
def stmtTally (w : Work) : Tally :=
  fastTally env w + ((failure? env w).map (lateTally env conf)).getD 0

/-- A row. -/
def rowTally (ingestedAtMs : ℤ) (item : StreamRow × ℕ) : Tally :=
  buildTally env conf ingestedAtMs item +
    ((rowWork conf ingestedAtMs item).map (stmtTally env conf)).sum

end tallies

/-! ## One step of each loop -/

section steps

variable (env : SinkEnv) (conf : SinkConf)

/-- `_quarantine` adds its tally. -/
theorem tally_quarantine (s : SinkState) (o : Origin) (r : StreamRow) (reason stage : String)
    (retryCount : ℕ) : (s.quarantine env conf o r reason stage retryCount).tally =
      s.tally + quarantineTally env conf o r reason stage retryCount := by
  ext1 <;> simp [SinkState.quarantine, SinkState.tally, quarantineTally, SinkTuple.record?,
    ← Multiset.coe_add]

/-- Rejecting a row and quarantining it adds the tally of a defect. -/
theorem tally_defect (s : SinkState) :
    { s with validationRejects := s.validationRejects + 1 }.tally = s.tally + defectTally := by
  ext1 <;> simp [SinkState.tally, defectTally]

/-- A sample of the row's latency is not on the tally. -/
@[simp] theorem tally_sample (s : SinkState) (pos : ℕ) (r : StreamRow) (ingestedAtMs : ℤ) :
    (s.sample env pos r ingestedAtMs).tally = s.tally := by
  unfold SinkState.sample
  dsimp only
  split_ifs <;> rfl

/-- The build phase of a row adds its build tally, and its statements to the work list. -/
theorem buildRow_spec (ingestedAtMs : ℤ) (acc : SinkState × List Work) (item : StreamRow × ℕ) :
    (buildRow env conf ingestedAtMs acc item).1.tally =
        acc.1.tally + buildTally env conf ingestedAtMs item ∧
      (buildRow env conf ingestedAtMs acc item).2 = acc.2 ++ rowWork conf ingestedAtMs item := by
  unfold buildRow buildTally rowWork
  cases buildStatements item.1.asDict conf.tables ingestedAtMs with
  | ok stmts => exact ⟨by simp, rfl⟩
  | error e =>
      by_cases hdefect : e.isInstance [.permanentDefect] = true
      · simp only [hdefect, if_true, List.append_nil, and_true]
        rw [← add_assoc, ← tally_quarantine]
        exact tally_defect _
      · simp only [hdefect, Bool.false_eq_true, if_false, List.append_nil, and_true]
        exact tally_quarantine env conf _ _ _ _ _ _

/-- The first execution of a statement adds its tally, and the failure to the retry list. -/
theorem fastPath_spec (acc : SinkState × List (Work × Exc)) (w : Work) :
    (fastPath env acc w).1.tally = acc.1.tally + fastTally env w ∧
      (fastPath env acc w).2 = acc.2 ++ (failure? env w).toList := by
  unfold fastPath fastTally failure?
  cases env.outcome w.pos w.stmt.key 0 with
  | ok u =>
      refine ⟨?_, by simp⟩
      ext1 <;> simp [SinkState.tally, ← Multiset.coe_add]
  | error e =>
      refine ⟨?_, rfl⟩
      ext1 <;> simp [SinkState.tally, RetryStats.recordReason, ← Multiset.coe_add]

/-- The retry path ends normally on a failure: it is permanent, or the loop of its statement does
not end in an exception outside both lists. -/
def Settles (f : Work × Exc) : Prop :=
  f.2.isInstance permanent = true ∨ ∀ e, (retryTrial env conf f.1).ending ≠ .escaped e

/-- The retry loop of a statement is its trial. -/
theorem callWithRetry_execute (w : Work) (draw : ℕ → ℚ) (log : List Execution) :
    callWithRetry (execute env w) (retryPolicy conf.retry) retryable permanent draw
        RetryStats.init log =
      let t := retryTrial env conf w
      ⟨t.result (attemptBudget (retryPolicy conf.retry)) 0,
        RetryStats.init.charge (retryPolicy conf.retry) draw 0 t,
        log ++ retryExecutions env conf w,
        ((delays (retryPolicy conf.retry) draw 0 t.calls).filter (0 < ·)).map (· / 1000)⟩ := by
  have hfn : ∀ k log, execute env w k log = (env.outcome w.pos w.stmt.key (k + 1),
      log ++ [⟨w.pos, w.stmt, k + 1, (env.outcome w.pos w.stmt.key (k + 1)).isOk⟩]) :=
    fun _ _ => rfl
  rw [callWithRetry, callLoop_eq hfn]
  simp only [List.foldl_append_eq_append, ← List.flatMap_def, ← List.map_eq_flatMap]
  rfl

/-- The reasons a trial records. -/
theorem toMultiset_foldl_name (errors : List Exc) (c : Counter String) :
    (errors.foldl (fun c e => c.add e.name 1) c).toMultiset =
      c.toMultiset + (errors.map Exc.name : List String) := by
  induction errors generalizing c with
  | nil => simp
  | cons e errors ih =>
      rw [List.foldl_cons, ih, Counter.toMultiset_add, List.map_cons, ← Multiset.cons_coe,
        Multiset.replicate_one, add_assoc, Multiset.singleton_add]

/-- The retry path of a failure that settles adds its tally. -/
theorem retryPath_of_settles {f : Work × Exc} (hf : Settles env conf f) (s : SinkState) :
    ∃ s', retryPath env conf s f = .ok s' ∧ s'.tally = s.tally + lateTally env conf f := by
  obtain ⟨w, e⟩ := f
  by_cases hperm : e.isInstance permanent = true
  · refine ⟨s.quarantine env conf w.origin w.row e.reason stageCassandraSink 0, ?_, ?_⟩
    · simp [retryPath, hperm]
    · rw [tally_quarantine]
      simp [lateTally, hperm]
  · have hend : ∀ e, (retryTrial env conf w).ending ≠ .escaped e :=
      hf.resolve_left hperm
    simp only [retryPath, lateTally, hperm, Bool.false_eq_true, if_false, callWithRetry_execute,
      retryTally, exhaustedTally, Trial.result]
    generalize retryExecutions env conf w = xs
    generalize retryTrial env conf w = t at hend
    obtain ⟨errors, ending⟩ := t
    cases ending with
    | escaped e => exact absurd rfl (hend e)
    | success u =>
        refine ⟨_, rfl, ?_⟩
        ext1 <;> simp [SinkState.tally, RetryStats.merge, RetryStats.charge, RetryStats.init,
          Trial.wins, Trial.losses, Trial.calls, toMultiset_foldl_name, ← Multiset.coe_add,
          add_assoc]
    | gaveUp e =>
        refine ⟨_, rfl, ?_⟩
        rw [← add_assoc]
        ext1 <;> simp [SinkState.tally, RetryStats.merge, RetryStats.charge, RetryStats.init,
          Trial.wins, Trial.losses, Trial.calls, toMultiset_foldl_name, ← Multiset.coe_add,
          SinkState.quarantine, quarantineTally, SinkTuple.record?]
    | spent e =>
        refine ⟨_, rfl, ?_⟩
        rw [← add_assoc]
        ext1 <;> simp [SinkState.tally, RetryStats.merge, RetryStats.charge, RetryStats.init,
          Trial.wins, Trial.losses, Trial.calls, toMultiset_foldl_name, ← Multiset.coe_add,
          SinkState.quarantine, quarantineTally, SinkTuple.record?]

/-- A retry path that ends normally met a failure that settles. -/
theorem settles_of_retryPath {s s' : SinkState} {f : Work × Exc}
    (h : retryPath env conf s f = .ok s') : Settles env conf f := by
  obtain ⟨w, e⟩ := f
  by_cases hperm : e.isInstance permanent = true
  · exact Or.inl hperm
  · refine Or.inr fun x hx => ?_
    simp only [retryPath, hperm, Bool.false_eq_true, if_false, callWithRetry_execute, Trial.result,
      hx] at h
    cases h

end steps

/-! ## Whole loops -/

section loops

variable (env : SinkEnv) (conf : SinkConf)

/-- Building a chunk adds the tally of each row and collects its statements. -/
theorem foldl_buildRow (ingestedAtMs : ℤ) (chunk : List (StreamRow × ℕ))
    (acc : SinkState × List Work) :
    (chunk.foldl (buildRow env conf ingestedAtMs) acc).1.tally =
        acc.1.tally + (chunk.map (buildTally env conf ingestedAtMs)).sum ∧
      (chunk.foldl (buildRow env conf ingestedAtMs) acc).2 =
        acc.2 ++ chunk.flatMap (rowWork conf ingestedAtMs) := by
  induction chunk generalizing acc with
  | nil => simp
  | cons item chunk ih =>
      obtain ⟨htally, hwork⟩ := buildRow_spec env conf ingestedAtMs acc item
      obtain ⟨ihtally, ihwork⟩ := ih (buildRow env conf ingestedAtMs acc item)
      rw [List.foldl_cons, ihtally, ihwork, htally, hwork]
      refine ⟨?_, ?_⟩
      · rw [List.map_cons, List.sum_cons, add_assoc]
      · rw [List.flatMap_cons, List.append_assoc]

/-- The fast path adds the tally of each statement and collects what failed. -/
theorem foldl_fastPath (work : List Work) (acc : SinkState × List (Work × Exc)) :
    (work.foldl (fastPath env) acc).1.tally = acc.1.tally + (work.map (fastTally env)).sum ∧
      (work.foldl (fastPath env) acc).2 = acc.2 ++ work.filterMap (failure? env) := by
  induction work generalizing acc with
  | nil => simp
  | cons w work ih =>
      obtain ⟨htally, hfail⟩ := fastPath_spec env acc w
      obtain ⟨ihtally, ihfail⟩ := ih (fastPath env acc w)
      rw [List.foldl_cons, ihtally, ihfail, htally, hfail]
      refine ⟨?_, ?_⟩
      · rw [List.map_cons, List.sum_cons, add_assoc]
      · rw [List.filterMap_cons, List.append_assoc]
        cases failure? env w <;> rfl

/-- The retry path, if no exception escapes, adds the tally of each failure. -/
theorem foldlM_retryPath {failures : List (Work × Exc)} {s s' : SinkState}
    (h : failures.foldlM (retryPath env conf) s = .ok s') :
    (∀ f ∈ failures, Settles env conf f) ∧
      s'.tally = s.tally + (failures.map (lateTally env conf)).sum := by
  refine foldlM_rec (P := fun done t => (∀ f ∈ done, Settles env conf f) ∧
    t.tally = s.tally + (done.map (lateTally env conf)).sum) h (by simp) ?_
  rintro done f t t' ⟨hdone, htally⟩ hstep
  have hf := settles_of_retryPath env conf hstep
  obtain ⟨t'', ht'', htally'⟩ := retryPath_of_settles env conf hf t
  obtain rfl : t'' = t' := Except.ok.inj (ht''.symm.trans hstep)
  refine ⟨?_, ?_⟩
  · intro g hg
    rcases List.mem_append.mp hg with hg | hg
    · exact hdone g hg
    · obtain rfl := List.mem_singleton.mp hg
      exact hf
  · rw [htally', htally, List.map_append, List.sum_append, List.map_singleton, List.sum_singleton,
      add_assoc]

/-- A statement is charged once for its first execution and once for its retry path. -/
theorem sum_stmtTally (work : List Work) :
    (work.map (fastTally env)).sum +
        ((work.filterMap (failure? env)).map (lateTally env conf)).sum =
      (work.map (stmtTally env conf)).sum := by
  induction work with
  | nil => rfl
  | cons w work ih =>
      rw [List.map_cons, List.sum_cons, List.map_cons, List.sum_cons, ← ih, List.filterMap_cons,
        stmtTally]
      cases failure? env w with
      | none => simp [add_assoc]
      | some f =>
          simp only [List.map_cons, List.sum_cons, Option.map_some, Option.getD_some]
          exact add_add_add_comm _ _ _ _

/-- The tally of a chunk is that of its rows. -/
theorem sum_rowTally (ingestedAtMs : ℤ) (chunk : List (StreamRow × ℕ)) :
    (chunk.map (buildTally env conf ingestedAtMs)).sum +
        ((chunk.flatMap (rowWork conf ingestedAtMs)).map (stmtTally env conf)).sum =
      (chunk.map (rowTally env conf ingestedAtMs)).sum := by
  induction chunk with
  | nil => rfl
  | cons item chunk ih =>
      rw [List.map_cons, List.sum_cons, List.map_cons, List.sum_cons, ← ih, List.flatMap_cons,
        List.map_append, List.sum_append, rowTally]
      exact add_add_add_comm _ _ _ _

/-- Every statement of a row whose first execution fails settles. -/
def RowSettles (ingestedAtMs : ℤ) (item : StreamRow × ℕ) : Prop :=
  ∀ w ∈ rowWork conf ingestedAtMs item, ∀ f, failure? env w = some f → Settles env conf f

/-- **One chunk**: when it ends normally, every row settles and the accumulators have grown by the
tallies of the rows. -/
theorem writeChunk_spec {s s' : SinkState} {chunk : List (StreamRow × ℕ)}
    (h : writeChunk env conf s chunk = .ok s') :
    (∀ item ∈ chunk, RowSettles env conf (chunkTime env chunk) item) ∧
      s'.tally = s.tally + (chunk.map (rowTally env conf (chunkTime env chunk))).sum := by
  obtain ⟨hbuilt, hwork⟩ := foldl_buildRow env conf (chunkTime env chunk) chunk (s, [])
  unfold writeChunk at h
  generalize chunk.foldl (buildRow env conf (chunkTime env chunk)) (s, []) = built at h hbuilt hwork
  obtain ⟨s₁, work⟩ := built
  dsimp only at h hbuilt hwork
  rw [List.nil_append] at hwork
  subst hwork
  rw [← sum_rowTally env conf]
  by_cases hempty : (chunk.flatMap (rowWork conf (chunkTime env chunk))).isEmpty = true
  · -- no statement was built: the loop goes on to the next chunk
    rw [if_pos hempty] at h
    obtain rfl : s₁ = s' := Except.ok.inj h
    have hnil := List.isEmpty_iff.mp hempty
    refine ⟨?_, ?_⟩
    · intro item hitem w hw
      rw [List.flatMap_eq_nil_iff.mp hnil item hitem] at hw
      cases hw
    · rw [hnil, hbuilt]
      simp
  · rw [if_neg hempty] at h
    obtain ⟨hfast, hfail⟩ := foldl_fastPath env
      (chunk.flatMap (rowWork conf (chunkTime env chunk))) (s₁, [])
    generalize (chunk.flatMap (rowWork conf (chunkTime env chunk))).foldl (fastPath env) (s₁, []) =
      fast at h hfast hfail
    obtain ⟨s₂, failures⟩ := fast
    dsimp only at h hfast hfail
    rw [List.nil_append] at hfail
    subst hfail
    obtain ⟨hsettles, htally⟩ := foldlM_retryPath env conf h
    refine ⟨?_, ?_⟩
    · intro item hitem w hw f hf
      exact hsettles f (List.mem_filterMap.mpr ⟨w, List.mem_flatMap.mpr ⟨item, hitem, hw⟩, hf⟩)
    · rw [htally, hfast, hbuilt, add_assoc, add_assoc, sum_stmtTally]

/-- A chunk whose rows settle ends normally. -/
theorem writeChunk_of_settles {chunk : List (StreamRow × ℕ)}
    (h : ∀ item ∈ chunk, RowSettles env conf (chunkTime env chunk) item) (s : SinkState) :
    ∃ s', writeChunk env conf s chunk = .ok s' := by
  obtain ⟨-, hwork⟩ := foldl_buildRow env conf (chunkTime env chunk) chunk (s, [])
  unfold writeChunk
  generalize chunk.foldl (buildRow env conf (chunkTime env chunk)) (s, []) = built at hwork
  obtain ⟨s₁, work⟩ := built
  dsimp only at hwork ⊢
  by_cases hempty : work.isEmpty = true
  · exact ⟨s₁, if_pos hempty⟩
  · obtain ⟨-, hfail⟩ := foldl_fastPath env work (s₁, [])
    rw [if_neg hempty]
    generalize work.foldl (fastPath env) (s₁, []) = fast at hfail
    obtain ⟨s₂, failures⟩ := fast
    dsimp only at hfail ⊢
    refine exists_foldlM_eq_ok s₂ fun f hf t => ?_
    rw [hfail, List.nil_append, List.mem_filterMap] at hf
    obtain ⟨w, hw, hwf⟩ := hf
    rw [hwork, List.nil_append, List.mem_flatMap] at hw
    obtain ⟨item, hitem, hw⟩ := hw
    obtain ⟨t', ht', -⟩ := retryPath_of_settles env conf (h item hitem w hw f hwf) t
    exact ⟨t', ht'⟩

/-- The tally of a chunk. -/
def chunkTally (chunk : List (StreamRow × ℕ)) : Tally :=
  (chunk.map (rowTally env conf (chunkTime env chunk))).sum

/-- The chunks of a partition. -/
def chunks (rows : List StreamRow) : List (List (StreamRow × ℕ)) :=
  batched conf.chunkSize rows.zipIdx

/-- Every row is in a chunk. -/
theorem exists_chunk {rows : List StreamRow} {item : StreamRow × ℕ} (h : item ∈ rows.zipIdx) :
    ∃ chunk ∈ chunks conf rows, item ∈ chunk := by
  rw [← flatten_batched conf.chunkSize rows.zipIdx] at h
  exact List.mem_flatten.mp h

/-- **The ledger of a partition is the sum of the tallies of its rows.** -/
theorem writePartition_tally {rows : List StreamRow} {run : PartitionRun}
    (h : writePartition env conf rows = .ok run) :
    ∃ s : SinkState, run = ⟨s.yields ++ [.stats s.payload], s.log⟩ ∧
      (∀ chunk ∈ chunks conf rows, ∀ item ∈ chunk,
        RowSettles env conf (chunkTime env chunk) item) ∧
      s.tally = ((chunks conf rows).map (chunkTally env conf)).sum := by
  obtain ⟨s, hs, hrun⟩ := bind_eq_ok_iff.mp h
  refine ⟨s, (Except.ok.inj hrun).symm, ?_⟩
  refine foldlM_rec (P := fun done t =>
    (∀ chunk ∈ done, ∀ item ∈ chunk, RowSettles env conf (chunkTime env chunk) item) ∧
      t.tally = (done.map (chunkTally env conf)).sum) hs (by simp) ?_
  rintro done chunk t t' ⟨hdone, htally⟩ hstep
  obtain ⟨hchunk, htally'⟩ := writeChunk_spec env conf hstep
  refine ⟨?_, ?_⟩
  · intro c hc
    rcases List.mem_append.mp hc with hc | hc
    · exact hdone c hc
    · obtain rfl := List.mem_singleton.mp hc
      exact hchunk
  · rw [htally', htally, List.map_append, List.sum_append, List.map_singleton, List.sum_singleton,
      chunkTally]

/-- A partition whose rows settle is written to its end. -/
theorem writePartition_of_settles {rows : List StreamRow}
    (h : ∀ chunk ∈ chunks conf rows, ∀ item ∈ chunk,
      RowSettles env conf (chunkTime env chunk) item) :
    ∃ run, writePartition env conf rows = .ok run := by
  obtain ⟨s, hs⟩ := exists_foldlM_eq_ok (f := writeChunk env conf) SinkState.init
    fun chunk hchunk t => writeChunk_of_settles env conf (h chunk hchunk) t
  exact ⟨_, bind_eq_ok_iff.mpr ⟨s, hs, rfl⟩⟩

end loops

end TripPipeline.Streaming
