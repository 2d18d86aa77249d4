import Mathlib.Algebra.BigOperators.Group.List.Lemmas
import TripPipeline.Streaming.Ledger

/-!
# The laws of the ledger

What holds of every run of the partition writer that ends normally, derived from the tallies:

* **The counters agree** (`Tally.Balanced`): the identities between the counters, the yielded tuples
  and the executions hold of the tally of one statement and are closed under sums.
* **A statement is settled once** (`settlements_stmtTally`): by one successful execution or by one
  `cassandra_sink` record.
* **Nothing depends on the chunks** (`map_total`): what a statement contributes does not depend on
  the chunk its row is in, so a sum over the chunks is a sum over the rows.
* **No row is lost** (`written_or_quarantined`), for every run that ends normally.
* `writePartition_ledger` puts them together for outcomes in `RETRYABLE` and `PERMANENT`, where
  every run ends normally.
-/

namespace TripPipeline.Streaming

open TripPipeline.Common TripPipeline.Lib

/-! ## One statement -/

section statement

variable (env : SinkEnv) (conf : SinkConf)

/-- The statement an execution belongs to. -/
def Execution.origin (x : Execution) : Origin := ⟨x.row, some x.statement.key⟩

/-- The loop succeeds at most once: its successful executions are its wins. -/
theorem countP_retryExecutions (w : Work) :
    (retryExecutions env conf w).countP (fun x => x.ok) = (retryTrial env conf w).wins := by
  have houtcomes := trial_outcomes (fun k => env.outcome w.pos w.stmt.key (k + 1)) retryable
    permanent (attemptBudget (retryPolicy conf.retry) - 1) 0
  have hcount : (retryExecutions env conf w).countP (fun x => x.ok) =
      ((List.range' 0 (retryTrial env conf w).calls).map
        fun k => env.outcome w.pos w.stmt.key (k + 1)).countP Except.isOk := by
    rw [retryExecutions, List.countP_map, List.countP_map]
    rfl
  rw [hcount]
  unfold retryTrial at *
  rw [houtcomes, List.countP_append, List.countP_map]
  generalize trial (fun k => env.outcome w.pos w.stmt.key (k + 1)) retryable permanent
    (attemptBudget (retryPolicy conf.retry) - 1) 0 = t
  have hnone : t.errors.countP (Except.isOk ∘ (Except.error : Exc → Except Exc Unit)) = 0 :=
    List.countP_eq_zero.mpr fun _ _ => Bool.false_ne_true
  rw [hnone, zero_add]
  cases h : t.ending <;> simp [Ending.last, Trial.wins, h, Except.isOk, Except.toBool]

/-- Every call of a trial that does not escape is a success or a recorded error. -/
theorem Trial.calls_eq {α : Type} {t : Trial α} (h : ∀ e, t.ending ≠ .escaped e) :
    t.calls = t.wins + t.errors.length := by
  obtain ⟨errors, ending⟩ := t
  cases ending with
  | escaped e => exact absurd rfl (h e)
  | success a => exact Nat.add_comm _ _
  | gaveUp e => exact (Nat.zero_add _).symm
  | spent e => exact (Nat.zero_add _).symm

/-- An execution on the retry path is one of its statement. -/
theorem mem_retryExecutions {w : Work} {x : Execution} (h : x ∈ retryExecutions env conf w) :
    x.row = w.pos ∧ x.statement = w.stmt ∧
      x.ok = (env.outcome w.pos w.stmt.key x.attempt).isOk := by
  obtain ⟨k, -, rfl⟩ := List.mem_map.mp h
  exact ⟨rfl, rfl, rfl⟩

/-- Quarantining an exhausted statement executes nothing. -/
theorem exhaustedTally_executions (w : Work) (r : CallResult Unit) :
    (exhaustedTally env conf w r).executions = 0 := by
  cases r <;> rfl

/-- Every execution charged to a statement is an execution of it. -/
theorem mem_stmtTally_executions {w : Work} {x : Execution}
    (h : x ∈ (stmtTally env conf w).executions) : x.row = w.pos ∧ x.statement = w.stmt ∧
      x.ok = (env.outcome w.pos w.stmt.key x.attempt).isOk := by
  unfold stmtTally fastTally failure? at h
  cases hout : env.outcome w.pos w.stmt.key 0 with
  | ok u =>
      obtain rfl : x = ⟨w.pos, w.stmt, 0, true⟩ := by simpa [hout] using h
      exact ⟨rfl, rfl, by rw [hout]; rfl⟩
  | error e =>
      simp only [hout, Option.map_some, Option.getD_some, Tally.add_executions,
        Multiset.mem_add, Multiset.mem_singleton] at h
      rcases h with rfl | h
      · exact ⟨rfl, rfl, by rw [hout]; rfl⟩
      · unfold lateTally at h
        by_cases hperm : e.isInstance permanent = true
        · simp [hperm, quarantineTally] at h
        · simp only [hperm, Bool.false_eq_true, if_false, retryTally, Tally.add_executions,
            exhaustedTally_executions, add_zero, Multiset.mem_coe] at h
          exact mem_retryExecutions env conf h

/-- The exception a statement is given up on: the one of its first execution (`first_exc`), or
`exc.last_error` of its retry loop. -/
def lastError (row : ℕ) (t : Table) : Option Exc :=
  match env.outcome row t 0 with
  | .ok () => none
  | .error e =>
      if e.isInstance permanent then some e
      else
        match (trial (fun k => env.outcome row t (k + 1)) retryable permanent
          (attemptBudget (retryPolicy conf.retry) - 1) 0).ending with
        | .gaveUp e | .spent e => some e
        | .success _ | .escaped _ => none

/-- **A statement ends in one of two ways**: written, and nothing is quarantined; or given up on an
exception, and one record of its row is quarantined at stage `cassandra_sink`. -/
theorem stmtTally_lastError {w : Work} (hw : ∀ f, failure? env w = some f → Settles env conf f) :
    ((stmtTally env conf w).rowsWritten = 1 ∧ (stmtTally env conf w).quarantined = 0 ∧
        lastError env conf w.pos w.stmt.key = none) ∨
      ((stmtTally env conf w).rowsWritten = 0 ∧ ∃ e n,
        lastError env conf w.pos w.stmt.key = some e ∧
        (stmtTally env conf w).quarantined =
          {(w.origin, (sinkRecord env conf w.origin w.row e.reason stageCassandraSink n).key,
            sinkRecord env conf w.origin w.row e.reason stageCassandraSink n)}) := by
  unfold stmtTally fastTally failure? lastError
  cases hout : env.outcome w.pos w.stmt.key 0 with
  | ok u => exact Or.inl ⟨by simp, by simp, rfl⟩
  | error e =>
      have hsettles : Settles env conf (w, e) := hw (w, e) (by simp [failure?, hout])
      simp only [Option.map_some, Option.getD_some, lateTally]
      by_cases hperm : e.isInstance permanent = true
      · refine Or.inr ⟨by simp [hperm, quarantineTally], e, 0, if_pos hperm, ?_⟩
        simp [hperm, quarantineTally]
      · have hend : ∀ x, (retryTrial env conf w).ending ≠ .escaped x := hsettles.resolve_left hperm
        simp only [hperm, Bool.false_eq_true, if_false, retryTally, exhaustedTally, Trial.result,
          Trial.wins]
        rw [← retryTrial]
        cases hlast : (retryTrial env conf w).ending with
        | escaped x => exact absurd hlast (hend x)
        | success u => exact Or.inl ⟨by simp, by simp, rfl⟩
        | gaveUp x =>
            refine Or.inr ⟨by simp [quarantineTally], x,
              0 + (retryTrial env conf w).errors.length + 1, rfl, ?_⟩
            simp [quarantineTally]
        | spent x =>
            refine Or.inr ⟨by simp [quarantineTally], x,
              attemptBudget (retryPolicy conf.retry) + 1, rfl, ?_⟩
            simp [quarantineTally]

/-- A statement is written, or a record of its row is quarantined at stage `cassandra_sink`. -/
theorem stmtTally_cases {w : Work} (hw : ∀ f, failure? env w = some f → Settles env conf f) :
    ((stmtTally env conf w).rowsWritten = 1 ∧ (stmtTally env conf w).quarantined = 0) ∨
      ((stmtTally env conf w).rowsWritten = 0 ∧ ∃ reason n,
        (stmtTally env conf w).quarantined =
          {(w.origin, (sinkRecord env conf w.origin w.row reason stageCassandraSink n).key,
            sinkRecord env conf w.origin w.row reason stageCassandraSink n)}) := by
  rcases stmtTally_lastError env conf hw with ⟨hone, hnone, -⟩ | ⟨hzero, e, n, -, hrec⟩
  · exact Or.inl ⟨hone, hnone⟩
  · exact Or.inr ⟨hzero, e.reason, n, hrec⟩

/-- A statement's records are its own, of stage `cassandra_sink`. -/
theorem mem_stmtTally_quarantined {w : Work} {q : Origin × PyVal × DLQRecord}
    (hw : ∀ f, failure? env w = some f → Settles env conf f)
    (hq : q ∈ (stmtTally env conf w).quarantined) :
    q.1 = w.origin ∧ q.2.2.failureStage = stageCassandraSink := by
  rcases stmtTally_cases env conf hw with ⟨-, hnone⟩ | ⟨-, reason, n, hrec⟩
  · rw [hnone] at hq
    exact absurd hq (Multiset.notMem_zero q)
  · rw [hrec] at hq
    obtain rfl := Multiset.mem_singleton.mp hq
    exact ⟨rfl, rfl⟩

/-- A written statement leaves no record, a statement that is not written leaves one. -/
theorem rowsWritten_add_card_stmtTally {w : Work}
    (hw : ∀ f, failure? env w = some f → Settles env conf f) :
    (stmtTally env conf w).rowsWritten + (stmtTally env conf w).quarantined.card = 1 := by
  rcases stmtTally_cases env conf hw with ⟨hone, hnone⟩ | ⟨hzero, reason, n, hrec⟩
  · rw [hone, hnone, Multiset.card_zero]
  · rw [hzero, hrec, Multiset.card_singleton]

/-- The writer gives up on a permanent or on a retryable exception. -/
theorem lastError_isInstance {row : ℕ} {t : Table} {e : Exc}
    (h : lastError env conf row t = some e) :
    e.isInstance permanent = true ∨ e.isInstance retryable = true := by
  have hfits := trial_ending (fun k => env.outcome row t (k + 1)) retryable permanent
    (attemptBudget (retryPolicy conf.retry) - 1) 0
  unfold lastError at h
  split at h
  · cases h
  · split_ifs at h with hperm
    · obtain rfl := Option.some.inj h
      exact Or.inl hperm
    · split at h
      · rename_i hend
        rw [hend] at hfits
        obtain rfl := Option.some.inj h
        exact Or.inl hfits
      · rename_i hend
        rw [hend] at hfits
        obtain rfl := Option.some.inj h
        exact Or.inr hfits.2
      · cases h
      · cases h

end statement

/-! ## The counters agree -/

/-- The identities between the counters, the yielded tuples and the executions. -/
structure Tally.Balanced (t : Tally) : Prop where
  dlqEmitted : t.dlqEmitted = t.quarantined.card
  others : t.others = 0
  successes : t.successes = t.rowsWritten
  rowsWritten : t.rowsWritten = t.executions.countP fun x => x.ok = true
  attempts : t.attempts = t.successes + t.reasons.card
  executions : t.attempts = t.executions.card
  retries : t.retriesBeforeSuccess = t.retriedWritesRetries

/-- Balanced tallies are closed under sums. -/
def balanced : AddSubmonoid Tally where
  carrier := {t | t.Balanced}
  zero_mem' := ⟨rfl, rfl, rfl, rfl, rfl, rfl, rfl⟩
  add_mem' := by
    rintro a b ⟨ha₁, ha₂, ha₃, ha₄, ha₅, ha₆, ha₇⟩ ⟨hb₁, hb₂, hb₃, hb₄, hb₅, hb₆, hb₇⟩
    refine ⟨?_, ?_, ?_, ?_, ?_, ?_, ?_⟩
    · rw [Tally.add_dlqEmitted, Tally.add_quarantined, Multiset.card_add, ha₁, hb₁]
    · rw [Tally.add_others, ha₂, hb₂]
    · rw [Tally.add_successes, Tally.add_rowsWritten, ha₃, hb₃]
    · rw [Tally.add_rowsWritten, Tally.add_executions, Multiset.countP_add, ha₄, hb₄]
    · rw [Tally.add_attempts, Tally.add_successes, Tally.add_reasons, Multiset.card_add, ha₅, hb₅]
      exact add_add_add_comm _ _ _ _
    · rw [Tally.add_attempts, Tally.add_executions, Multiset.card_add, ha₆, hb₆]
    · rw [Tally.add_retriesBeforeSuccess, Tally.add_retriedWritesRetries, ha₇, hb₇]

section balance

variable (env : SinkEnv) (conf : SinkConf)

/-- Quarantining a row keeps the counters in balance. -/
theorem balanced_quarantineTally (o : Origin) (r : StreamRow) (reason stage : String)
    (retryCount : ℕ) : quarantineTally env conf o r reason stage retryCount ∈ balanced :=
  ⟨rfl, rfl, rfl, rfl, rfl, rfl, rfl⟩

/-- The fast path keeps the counters in balance. -/
theorem balanced_fastTally (w : Work) : fastTally env w ∈ balanced := by
  unfold fastTally
  cases env.outcome w.pos w.stmt.key 0 with
  | ok u => exact ⟨rfl, rfl, rfl, rfl, by simp, by simp, rfl⟩
  | error e => exact ⟨rfl, rfl, rfl, rfl, by simp, by simp, rfl⟩

/-- The retry path keeps the counters in balance, unless an exception escapes. -/
theorem balanced_retryTally {w : Work} (hw : ∀ e, (retryTrial env conf w).ending ≠ .escaped e) :
    retryTally env conf w ∈ balanced := by
  refine balanced.add_mem ?_ ?_
  · refine ⟨rfl, rfl, rfl, ?_, ?_, ?_, rfl⟩
    · simpa using (countP_retryExecutions env conf w).symm
    · simpa using Trial.calls_eq hw
    · simp [retryExecutions]
  · unfold exhaustedTally
    split
    · exact balanced_quarantineTally env conf _ _ _ _ _
    · exact balanced.zero_mem

/-- A failure is about its statement. -/
theorem failure?_fst {env : SinkEnv} {w : Work} {f : Work × Exc} (h : failure? env w = some f) :
    f.1 = w := by
  unfold failure? at h
  split at h
  · cases h
  · exact congrArg Prod.fst (Option.some.inj h).symm

/-- A statement keeps the counters in balance. -/
theorem balanced_stmtTally {w : Work} (hw : ∀ f, failure? env w = some f → Settles env conf f) :
    stmtTally env conf w ∈ balanced := by
  refine balanced.add_mem (balanced_fastTally env w) ?_
  cases hfail : failure? env w with
  | none => exact balanced.zero_mem
  | some f =>
      obtain rfl := failure?_fst hfail
      simp only [Option.map_some, Option.getD_some, lateTally]
      by_cases hperm : f.2.isInstance permanent = true
      · rw [if_pos hperm]
        exact balanced_quarantineTally env conf _ _ _ _ _
      · rw [if_neg hperm]
        exact balanced_retryTally env conf ((hw f hfail).resolve_left hperm)

/-- Building the statements of a row keeps the counters in balance. -/
theorem balanced_buildTally (ingestedAtMs : ℤ) (item : StreamRow × ℕ) :
    buildTally env conf ingestedAtMs item ∈ balanced := by
  unfold buildTally
  split
  · exact balanced.zero_mem
  · split_ifs
    · refine balanced.add_mem (balanced_quarantineTally env conf _ _ _ _ _) ?_
      exact ⟨rfl, rfl, rfl, rfl, rfl, rfl, rfl⟩
    · exact balanced_quarantineTally env conf _ _ _ _ _

/-- A row keeps the counters in balance. -/
theorem balanced_rowTally {ingestedAtMs : ℤ} {item : StreamRow × ℕ}
    (h : RowSettles env conf ingestedAtMs item) :
    rowTally env conf ingestedAtMs item ∈ balanced := by
  refine balanced.add_mem (balanced_buildTally env conf ingestedAtMs item) ?_
  refine balanced.list_sum_mem fun t ht => ?_
  obtain ⟨w, hw, rfl⟩ := List.mem_map.mp ht
  exact balanced_stmtTally env conf (h w hw)

/-- The total of a run is balanced. -/
theorem balanced_total {rows : List StreamRow}
    (h : ∀ chunk ∈ chunks conf rows, ∀ item ∈ chunk,
      RowSettles env conf (chunkTime env chunk) item) :
    ((chunks conf rows).map (chunkTally env conf)).sum ∈ balanced := by
  refine balanced.list_sum_mem fun t ht => ?_
  obtain ⟨chunk, hchunk, rfl⟩ := List.mem_map.mp ht
  refine balanced.list_sum_mem fun t ht => ?_
  obtain ⟨item, hitem, rfl⟩ := List.mem_map.mp ht
  exact balanced_rowTally env conf (h chunk hchunk item hitem)

end balance

/-! ## A statement is settled once -/

section settlements

variable (env : SinkEnv) (conf : SinkConf)

/-- How often a statement was settled: its successful executions and its `cassandra_sink`
records. -/
def settlements (o : Origin) : Tally →+ ℕ where
  toFun t := t.executions.countP (fun x => x.origin = o ∧ x.ok = true) +
    t.quarantined.countP fun q => q.1 = o ∧ q.2.2.failureStage = stageCassandraSink
  map_zero' := rfl
  map_add' a b := by
    rw [Tally.add_executions, Tally.add_quarantined, Multiset.countP_add, Multiset.countP_add]
    exact add_add_add_comm _ _ _ _

/-- The number of yielded `cassandra_sink` records. -/
def sinkRecords : Tally →+ ℕ where
  toFun t := t.quarantined.countP fun q => q.2.2.failureStage = stageCassandraSink
  map_zero' := rfl
  map_add' a b := by rw [Tally.add_quarantined, Multiset.countP_add]

/-- The number of written statements. -/
def written : Tally →+ ℕ where
  toFun t := t.rowsWritten
  map_zero' := rfl
  map_add' _ _ := rfl

/-- A record has the stage it was given. -/
@[simp] theorem sinkRecord_failureStage (o : Origin) (r : StreamRow) (reason stage : String)
    (retryCount : ℕ) : (sinkRecord env conf o r reason stage retryCount).failureStage = stage := rfl

/-- **A statement is settled exactly once, and settles no other.** -/
theorem settlements_stmtTally {w : Work} (hw : ∀ f, failure? env w = some f → Settles env conf f)
    (o : Origin) : settlements o (stmtTally env conf w) = if w.origin = o then 1 else 0 := by
  have hexec : ∀ x ∈ (stmtTally env conf w).executions, x.origin = w.origin := by
    intro x hx
    obtain ⟨hrow, hstmt, -⟩ := mem_stmtTally_executions env conf hx
    rw [Execution.origin, Work.origin, hrow, hstmt]
  have hwritten := (balanced_stmtTally env conf hw).rowsWritten
  show Multiset.countP _ _ + Multiset.countP _ _ = _
  by_cases ho : w.origin = o
  · -- the statement's own executions and record
    have hcount : (stmtTally env conf w).executions.countP (fun x => x.origin = o ∧ x.ok = true) =
        (stmtTally env conf w).rowsWritten := by
      rw [hwritten]
      refine Multiset.countP_congr rfl fun x hx => ?_
      rw [hexec x hx, ho]
      simp
    rw [hcount, if_pos ho, Multiset.countP_eq_card.mpr, rowsWritten_add_card_stmtTally env conf hw]
    intro q hq
    obtain ⟨horigin, hstage⟩ := mem_stmtTally_quarantined env conf hw hq
    exact ⟨horigin.trans ho, hstage⟩
  · rw [if_neg ho, Multiset.countP_eq_zero.mpr, Multiset.countP_eq_zero.mpr]
    · intro q hq h
      exact ho ((mem_stmtTally_quarantined env conf hw hq).1.symm.trans h.1)
    · intro x hx h
      exact ho ((hexec x hx).symm.trans h.1)

/-- A statement is written or leaves one record of the sink. -/
theorem written_add_sinkRecords_stmtTally {w : Work}
    (hw : ∀ f, failure? env w = some f → Settles env conf f) :
    written (stmtTally env conf w) + sinkRecords (stmtTally env conf w) = 1 := by
  show (stmtTally env conf w).rowsWritten + Multiset.countP _ (stmtTally env conf w).quarantined = 1
  rw [Multiset.countP_eq_card.mpr, rowsWritten_add_card_stmtTally env conf hw]
  exact fun q hq => (mem_stmtTally_quarantined env conf hw hq).2

/-- The records of the build phase are of stage `parse`. -/
theorem buildTally_quarantined {ingestedAtMs : ℤ} {item : StreamRow × ℕ}
    {q : Origin × PyVal × DLQRecord}
    (hq : q ∈ (buildTally env conf ingestedAtMs item).quarantined) :
    q.2.2.failureStage = stageParse := by
  unfold buildTally at hq
  cases hb : buildStatements item.1.asDict conf.tables ingestedAtMs with
  | ok stmts => simp [hb] at hq
  | error e =>
      simp only [hb] at hq
      split_ifs at hq
      · simp only [Tally.add_quarantined, quarantineTally, defectTally, Tally.zero_quarantined,
          add_zero, Multiset.mem_singleton] at hq
        rw [hq]
        rfl
      · obtain rfl := Multiset.mem_singleton.mp hq
        rfl

/-- The two stages are different. -/
theorem stageParse_ne : stageParse ≠ stageCassandraSink := by decide

/-- Building settles no statement. -/
theorem settlements_buildTally (ingestedAtMs : ℤ) (item : StreamRow × ℕ) (o : Origin) :
    settlements o (buildTally env conf ingestedAtMs item) = 0 := by
  show Multiset.countP _ _ + Multiset.countP _ _ = 0
  have hexec : (buildTally env conf ingestedAtMs item).executions = 0 := by
    unfold buildTally
    split
    · rfl
    · split_ifs <;> rfl
  rw [hexec, Multiset.countP_zero, zero_add, Multiset.countP_eq_zero]
  intro q hq h
  exact stageParse_ne ((buildTally_quarantined env conf hq).symm.trans h.2)

/-- Building writes nothing and leaves no record of the sink. -/
theorem written_add_sinkRecords_buildTally (ingestedAtMs : ℤ) (item : StreamRow × ℕ) :
    written (buildTally env conf ingestedAtMs item) +
      sinkRecords (buildTally env conf ingestedAtMs item) = 0 := by
  have hwritten : written (buildTally env conf ingestedAtMs item) = 0 := by
    unfold buildTally
    split
    · rfl
    · split_ifs <;> rfl
  rw [hwritten, zero_add]
  refine Multiset.countP_eq_zero.mpr fun q hq h => ?_
  exact stageParse_ne ((buildTally_quarantined env conf hq).symm.trans h)

end settlements

/-! ## The built statements -/

section built

variable (env : SinkEnv) (conf : SinkConf)

/-- The statements built for a row. -/
def builtStatements (item : StreamRow × ℕ) : List Origin := (rowWork conf 0 item).map Work.origin

/-- Which statements are built does not depend on the write time. -/
theorem rowWork_origin (ingestedAtMs : ℤ) (item : StreamRow × ℕ) :
    (rowWork conf ingestedAtMs item).map Work.origin = builtStatements conf item := by
  have hkeys : ∀ stmts : List Statement, (stmts.map fun st => Work.mk item.2 item.1 st).map
      Work.origin = (stmts.map Statement.key).map fun t => Origin.mk item.2 (some t) := by
    intro stmts
    rw [List.map_map, List.map_map]
    rfl
  have htime := buildStatements_time item.1.asDict conf.tables ingestedAtMs 0
  unfold builtStatements rowWork
  revert htime
  cases buildStatements item.1.asDict conf.tables ingestedAtMs <;>
    cases buildStatements item.1.asDict conf.tables 0 <;>
      simp only [Except.map, hkeys, reduceCtorEq, Except.ok.injEq, false_implies, List.map_nil,
        implies_true]
  intro h
  rw [h]

/-- A statement is built from its row. -/
theorem mem_builtStatements_row {item : StreamRow × ℕ} {o : Origin}
    (h : o ∈ builtStatements conf item) : o.row = item.2 := by
  obtain ⟨w, hw, rfl⟩ := List.mem_map.mp h
  unfold rowWork at hw
  split at hw
  · obtain ⟨st, -, rfl⟩ := List.mem_map.mp hw
    rfl
  · cases hw

/-- No statement is built twice. -/
theorem nodup_builtStatements (rows : List StreamRow) :
    (rows.zipIdx.flatMap (builtStatements conf)).Nodup := by
  rw [List.nodup_flatMap]
  refine ⟨?_, ?_⟩
  · intro item _
    unfold builtStatements rowWork
    cases hb : buildStatements item.1.asDict conf.tables 0 with
    | error e => exact List.nodup_nil
    | ok stmts =>
        have hkeys : (stmts.map Statement.key).Nodup := by
          rw [buildStatements_keys hb]
          exact List.Nodup.filter _ (by decide)
        have hinj : Function.Injective fun t => Origin.mk item.2 (some t) := by
          intro t t' h
          exact Option.some.inj (Origin.mk.inj h).2
        have hnodup := hkeys.map hinj
        rw [List.map_map] at hnodup ⊢
        exact hnodup
  · have hpos : (rows.zipIdx.map Prod.snd).Nodup := by
      rw [List.zipIdx_map_snd]
      exact List.nodup_range'
    refine (List.pairwise_map.mp hpos).imp fun {a b} hne => ?_
    intro o ha hb
    exact hne ((mem_builtStatements_row conf ha).symm.trans (mem_builtStatements_row conf hb))

/-- **Chunks do not matter**: a measure of tallies that is the same for a row in every chunk adds up
over the rows. -/
theorem map_total {M : Type} [AddCommMonoid M] (φ : Tally →+ M) (g : StreamRow × ℕ → M)
    {rows : List StreamRow}
    (hg : ∀ chunk ∈ chunks conf rows, ∀ item ∈ chunk,
      φ (rowTally env conf (chunkTime env chunk) item) = g item) :
    φ ((chunks conf rows).map (chunkTally env conf)).sum = (rows.zipIdx.map g).sum := by
  have hchunk : ∀ chunk ∈ chunks conf rows, φ (chunkTally env conf chunk) = (chunk.map g).sum := by
    intro chunk hchunk
    rw [chunkTally, map_list_sum, List.map_map]
    exact congrArg List.sum (List.map_congr_left fun item hitem => hg chunk hchunk item hitem)
  calc φ ((chunks conf rows).map (chunkTally env conf)).sum
      = ((chunks conf rows).map fun chunk => (chunk.map g).sum).sum := by
        rw [map_list_sum, List.map_map]
        exact congrArg List.sum (List.map_congr_left hchunk)
    _ = ((chunks conf rows).flatten.map g).sum := by
        rw [List.map_flatten, List.sum_flatten, List.map_map]
        rfl
    _ = (rows.zipIdx.map g).sum := by rw [chunks, flatten_batched]

/-- Each statement of the work is settled once. -/
theorem settlements_work {work : List Work}
    (hw : ∀ w ∈ work, ∀ f, failure? env w = some f → Settles env conf f) (o : Origin) :
    settlements o (work.map (stmtTally env conf)).sum = (work.map Work.origin).count o := by
  induction work with
  | nil => rfl
  | cons w work ih =>
      rw [List.map_cons, List.sum_cons, map_add, List.map_cons, List.count_cons,
        ih fun w' hw' => hw w' (List.mem_cons_of_mem _ hw'),
        settlements_stmtTally env conf (hw w List.mem_cons_self), add_comm]
      simp

/-- The statements of the work are written or leave a record of the sink. -/
theorem written_add_sinkRecords_work {work : List Work}
    (hw : ∀ w ∈ work, ∀ f, failure? env w = some f → Settles env conf f) :
    (written + sinkRecords) (work.map (stmtTally env conf)).sum = work.length := by
  induction work with
  | nil => rfl
  | cons w work ih =>
      rw [List.map_cons, List.sum_cons, map_add,
        ih fun w' hw' => hw w' (List.mem_cons_of_mem _ hw'), List.length_cons, add_comm]
      exact congrArg (work.length + ·)
        (written_add_sinkRecords_stmtTally env conf (hw w List.mem_cons_self))

/-- In a whole run, a statement is settled as often as it is built. -/
theorem settlements_total {rows : List StreamRow}
    (h : ∀ chunk ∈ chunks conf rows, ∀ item ∈ chunk,
      RowSettles env conf (chunkTime env chunk) item) (o : Origin) :
    settlements o ((chunks conf rows).map (chunkTally env conf)).sum =
      (rows.zipIdx.flatMap (builtStatements conf)).count o := by
  rw [List.count_flatMap]
  refine map_total env conf (settlements o) _ ?_
  intro chunk hchunk item hitem
  rw [rowTally, map_add, settlements_buildTally, zero_add,
    settlements_work env conf (h chunk hchunk item hitem), rowWork_origin]
  rfl

/-- In a whole run, written statements and `cassandra_sink` records add up to the statements
built. -/
theorem written_add_sinkRecords_total {rows : List StreamRow}
    (h : ∀ chunk ∈ chunks conf rows, ∀ item ∈ chunk,
      RowSettles env conf (chunkTime env chunk) item) :
    (written + sinkRecords) ((chunks conf rows).map (chunkTally env conf)).sum =
      (rows.zipIdx.flatMap (builtStatements conf)).length := by
  rw [List.length_flatMap]
  refine map_total env conf (written + sinkRecords) _ ?_
  intro chunk hchunk item hitem
  rw [rowTally, map_add, written_add_sinkRecords_work env conf (h chunk hchunk item hitem),
    ← rowWork_origin conf (chunkTime env chunk) item, List.length_map]
  exact (congrArg (· + _) (written_add_sinkRecords_buildTally env conf _ item)).trans (zero_add _)

end built

/-! ## No row is lost -/

section covered

variable (env : SinkEnv) (conf : SinkConf)

/-- All statements of a row, one for each table, were executed successfully. -/
def FullyWritten (run : PartitionRun) (item : StreamRow × ℕ) : Prop :=
  ∃ ingestedAtMs stmts, buildStatements item.1.asDict conf.tables ingestedAtMs = .ok stmts ∧
    ∀ st ∈ stmts, ∃ x ∈ run.log, x.row = item.2 ∧ x.statement = st ∧ x.ok = true

/-- A record of a row was yielded, and it carries the row's payload. -/
def Quarantined (codec : JsonCodec) (yields : List SinkTuple) (item : StreamRow × ℕ) : Prop :=
  ∃ o key value, SinkTuple.dlq o key value ∈ yields ∧ o.row = item.2 ∧
    value.originalPayload = rowJson codec item.1

/-- A summand is part of the sum. -/
theorem exists_sum_eq_add {M : Type} [AddCommMonoid M] {l : List M} {a : M} (h : a ∈ l) :
    ∃ rest, l.sum = a + rest := by
  obtain ⟨s, t, rfl⟩ := List.append_of_mem h
  refine ⟨s.sum + t.sum, ?_⟩
  rw [List.sum_append, List.sum_cons, add_left_comm]

/-- The total contains the tally of every row. -/
theorem exists_total_eq_add {rows : List StreamRow} {chunk : List (StreamRow × ℕ)}
    {item : StreamRow × ℕ} (hchunk : chunk ∈ chunks conf rows) (hitem : item ∈ chunk) :
    ∃ rest, ((chunks conf rows).map (chunkTally env conf)).sum =
      rowTally env conf (chunkTime env chunk) item + rest := by
  obtain ⟨u, hu⟩ := exists_sum_eq_add (List.mem_map_of_mem (f := chunkTally env conf) hchunk)
  obtain ⟨v, hv⟩ := exists_sum_eq_add
    (List.mem_map_of_mem (f := rowTally env conf (chunkTime env chunk)) hitem)
  refine ⟨v + u, ?_⟩
  rw [hu, chunkTally, hv, add_assoc]

/-- A record in the tally of the accumulators was yielded. -/
theorem mem_yields_of_quarantined {s : SinkState} {q : Origin × PyVal × DLQRecord}
    (h : q ∈ s.tally.quarantined) : SinkTuple.dlq q.1 q.2.1 q.2.2 ∈ s.yields := by
  obtain ⟨y, hy, hq⟩ := List.mem_filterMap.mp (Multiset.mem_coe.mp h)
  cases y with
  | dlq o key value =>
      obtain rfl := Option.some.inj hq
      exact hy
  | stats p => cases hq

/-- A refused row leaves a record of its payload. -/
theorem exists_quarantined_buildTally {ingestedAtMs : ℤ} {item : StreamRow × ℕ} {e : Exc}
    (h : buildStatements item.1.asDict conf.tables ingestedAtMs = .error e) :
    ∃ q ∈ (buildTally env conf ingestedAtMs item).quarantined, q.1.row = item.2 ∧
      q.2.2.originalPayload = rowJson env.codec item.1 := by
  simp only [buildTally, h]
  split_ifs
  · exact ⟨_, Multiset.mem_add.mpr (Or.inl (Multiset.mem_singleton_self _)), rfl, rfl⟩
  · exact ⟨_, Multiset.mem_singleton_self _, rfl, rfl⟩

/-- A written statement has a successful execution. -/
theorem exists_ok_of_rowsWritten {w : Work} (hw : ∀ f, failure? env w = some f → Settles env conf f)
    (h : (stmtTally env conf w).rowsWritten = 1) :
    ∃ x ∈ (stmtTally env conf w).executions, x.ok = true := by
  rw [(balanced_stmtTally env conf hw).rowsWritten] at h
  exact Multiset.countP_pos.mp (h ▸ Nat.one_pos)

/-- A statement leaves a successful execution, or a record of its row's payload. -/
theorem stmtTally_covers {w : Work} (hw : ∀ f, failure? env w = some f → Settles env conf f) :
    (∃ x ∈ (stmtTally env conf w).executions, x.row = w.pos ∧ x.statement = w.stmt ∧
        x.ok = true) ∨
      ∃ q ∈ (stmtTally env conf w).quarantined, q.1.row = w.pos ∧
        q.2.2.originalPayload = rowJson env.codec w.row := by
  rcases stmtTally_cases env conf hw with ⟨hone, -⟩ | ⟨-, reason, n, hrec⟩
  · left
    obtain ⟨x, hx, hok⟩ := exists_ok_of_rowsWritten env conf hw hone
    obtain ⟨hrow, hstmt, -⟩ := mem_stmtTally_executions env conf hx
    exact ⟨x, hx, hrow, hstmt, hok⟩
  · right
    rw [hrec]
    exact ⟨_, Multiset.mem_singleton_self _, rfl, rfl⟩

/-- A row leaves a successful execution of each of its statements, or a record of its payload. -/
theorem rowTally_covers {ingestedAtMs : ℤ} {item : StreamRow × ℕ}
    (h : RowSettles env conf ingestedAtMs item) :
    (∃ stmts, buildStatements item.1.asDict conf.tables ingestedAtMs = .ok stmts ∧
        ∀ st ∈ stmts, ∃ x ∈ (rowTally env conf ingestedAtMs item).executions,
          x.row = item.2 ∧ x.statement = st ∧ x.ok = true) ∨
      ∃ q ∈ (rowTally env conf ingestedAtMs item).quarantined, q.1.row = item.2 ∧
        q.2.2.originalPayload = rowJson env.codec item.1 := by
  rcases hb : buildStatements item.1.asDict conf.tables ingestedAtMs with e | stmts
  · obtain ⟨q, hq, hrow⟩ := exists_quarantined_buildTally env conf hb
    exact Or.inr ⟨q, Multiset.mem_add.mpr (Or.inl hq), hrow⟩
  have hwork : ∀ st ∈ stmts, (⟨item.2, item.1, st⟩ : Work) ∈ rowWork conf ingestedAtMs item := by
    intro st hst
    rw [rowWork, hb]
    exact List.mem_map_of_mem hst
  have hpart : ∀ st ∈ stmts, ∃ rest, rowTally env conf ingestedAtMs item =
      stmtTally env conf ⟨item.2, item.1, st⟩ + rest := by
    intro st hst
    obtain ⟨u, hu⟩ := exists_sum_eq_add
      (List.mem_map_of_mem (f := stmtTally env conf) (hwork st hst))
    refine ⟨buildTally env conf ingestedAtMs item + u, ?_⟩
    rw [rowTally, hu, add_left_comm]
  by_cases hall : ∀ st ∈ stmts, ∃ x ∈ (stmtTally env conf ⟨item.2, item.1, st⟩).executions,
      x.row = item.2 ∧ x.statement = st ∧ x.ok = true
  · refine Or.inl ⟨stmts, rfl, fun st hst => ?_⟩
    obtain ⟨x, hx, hexec⟩ := hall st hst
    obtain ⟨rest, hrest⟩ := hpart st hst
    refine ⟨x, ?_, hexec⟩
    rw [hrest, Tally.add_executions]
    exact Multiset.mem_add.mpr (Or.inl hx)
  · -- some statement was given up: its record carries the row's payload
    simp only [not_forall] at hall
    obtain ⟨st, hst, hnot⟩ := hall
    obtain ⟨rest, hrest⟩ := hpart st hst
    rcases stmtTally_covers env conf (h _ (hwork st hst)) with hexec | ⟨q, hq, hrow⟩
    · exact absurd hexec hnot
    · refine Or.inr ⟨q, ?_, hrow⟩
      rw [hrest, Tally.add_quarantined]
      exact Multiset.mem_add.mpr (Or.inl hq)

/-- **No row is lost**: in every run that ends normally, a row has all its statements executed
successfully or a yielded record of its payload. -/
theorem written_or_quarantined {rows : List StreamRow} {run : PartitionRun}
    (h : writePartition env conf rows = .ok run) {item : StreamRow × ℕ}
    (hitem : item ∈ rows.zipIdx) :
    FullyWritten conf run item ∨ Quarantined env.codec run.yields item := by
  obtain ⟨s, rfl, hsettles, htally⟩ := writePartition_tally env conf h
  obtain ⟨chunk, hchunk, hmem⟩ := exists_chunk conf hitem
  obtain ⟨rest, hrest⟩ := exists_total_eq_add env conf hchunk hmem
  rw [hrest] at htally
  rcases rowTally_covers env conf (hsettles chunk hchunk item hmem) with
    ⟨stmts, hb, hexec⟩ | ⟨q, hq, hrow, hpayload⟩
  · refine Or.inl ⟨chunkTime env chunk, stmts, hb, fun st hst => ?_⟩
    obtain ⟨x, hx, hdone⟩ := hexec st hst
    have hlog : x ∈ s.tally.executions := by
      rw [htally, Tally.add_executions]
      exact Multiset.mem_add.mpr (Or.inl hx)
    exact ⟨x, Multiset.mem_coe.mp hlog, hdone⟩
  · have hyield : q ∈ s.tally.quarantined := by
      rw [htally, Tally.add_quarantined]
      exact Multiset.mem_add.mpr (Or.inl hq)
    exact Or.inr ⟨q.1, q.2.1, q.2.2, List.mem_append_left _ (mem_yields_of_quarantined hyield),
      hrow, hpayload⟩

end covered

/-! ## The yielded records -/

/-- A record of the sum is a record of one of the tallies. -/
theorem mem_sum_quarantined {l : List Tally} {q : Origin × PyVal × DLQRecord} :
    q ∈ l.sum.quarantined ↔ ∃ t ∈ l, q ∈ t.quarantined := by
  induction l with
  | nil => simp
  | cons t l ih => simp [ih]

/-- **The yielded records are those of the rows.** -/
theorem writePartition_dlq_iff {env : SinkEnv} {conf : SinkConf} {rows : List StreamRow}
    {run : PartitionRun} (h : writePartition env conf rows = .ok run)
    {q : Origin × PyVal × DLQRecord} :
    SinkTuple.dlq q.1 q.2.1 q.2.2 ∈ run.yields ↔
      ∃ chunk ∈ chunks conf rows, ∃ item ∈ chunk,
        q ∈ (buildTally env conf (chunkTime env chunk) item).quarantined ∨
          ∃ w ∈ rowWork conf (chunkTime env chunk) item,
            q ∈ (stmtTally env conf w).quarantined := by
  obtain ⟨s, rfl, -, htally⟩ := writePartition_tally env conf h
  have hyields : SinkTuple.dlq q.1 q.2.1 q.2.2 ∈ s.yields ++ [.stats s.payload] ↔
      q ∈ s.tally.quarantined := by
    constructor
    · intro hy
      rcases List.mem_append.mp hy with hy | hy
      · exact Multiset.mem_coe.mpr (List.mem_filterMap.mpr ⟨_, hy, rfl⟩)
      · cases List.mem_singleton.mp hy
    · intro hq
      exact List.mem_append_left _ (mem_yields_of_quarantined hq)
  rw [hyields, htally]
  simp only [mem_sum_quarantined, List.mem_map, chunkTally, rowTally, Tally.add_quarantined,
    Multiset.mem_add, exists_exists_and_eq_and]

/-! ## The ledger balances -/

/-- The tuple is the `cassandra_sink` record of a statement. -/
def SinkTuple.settles (o : Origin) : SinkTuple → Bool
  | .dlq o' _ value => decide (o' = o ∧ value.failureStage = stageCassandraSink)
  | .stats _ => false

/-- The tuple is a `cassandra_sink` record. -/
def SinkTuple.isSinkRecord : SinkTuple → Bool
  | .dlq _ _ value => decide (value.failureStage = stageCassandraSink)
  | .stats _ => false

/-- The tuple is a `dlq` tuple. -/
def SinkTuple.isDlq : SinkTuple → Bool
  | .dlq _ _ _ => true
  | .stats _ => false

/-- What the writer owes its caller about a partition. -/
structure LedgerBalances (conf : SinkConf) (rows : List StreamRow) (run : PartitionRun) : Prop where
  /-- One statement is built for each configured table. -/
  tables : ∀ r ∈ rows, ∀ ingestedAtMs stmts,
    buildStatements r.asDict conf.tables ingestedAtMs = .ok stmts →
      stmts.map Statement.key = conf.tables
  /-- Every row has all its statements executed successfully, or a record of its `_raw`. -/
  covered : ∀ item ∈ rows.zipIdx, FullyWritten conf run item ∨
    ∃ o key value, SinkTuple.dlq o key value ∈ run.yields ∧ o.row = item.2 ∧
      some value.originalPayload = item.1.raw
  /-- Every statement built is executed successfully once or leaves one `cassandra_sink` record. -/
  once : ∀ o ∈ rows.zipIdx.flatMap (builtStatements conf),
    run.log.countP (fun x => decide (x.origin = o ∧ x.ok = true)) +
      run.yields.countP (fun y => y.settles o) = 1
  /-- There is one `stats` tuple, it is last, and its counters agree with what was yielded and
  executed. -/
  stats : ∃ dlqs payload, run.yields = dlqs ++ [.stats payload] ∧
    (∀ y ∈ dlqs, y.isDlq = true) ∧
    payload.dlqEmitted = dlqs.length ∧
    payload.rowsWritten = run.log.countP (fun x => x.ok) ∧
    payload.rowsWritten + run.yields.countP SinkTuple.isSinkRecord =
      (rows.zipIdx.flatMap (builtStatements conf)).length ∧
    payload.retryStats.successes = payload.rowsWritten ∧
    payload.retryStats.attempts =
      payload.retryStats.successes + payload.retryStats.failureReasons.total ∧
    payload.retryStats.retriesBeforeSuccess = payload.retriedWritesRetries

section ledger

variable (env : SinkEnv) (conf : SinkConf)

/-- Every failure of the environment is in one of the two lists. -/
def SinkEnv.Listed (env : SinkEnv) : Prop :=
  ∀ row t n e, env.outcome row t n = .error e →
    e.isInstance retryable = true ∨ e.isInstance permanent = true

/-- When every failure is in one of the two lists, every row settles. -/
theorem rowSettles_of_listed (hout : env.Listed) (ingestedAtMs : ℤ) (item : StreamRow × ℕ) :
    RowSettles env conf ingestedAtMs item := by
  intro w _ f _
  by_cases hperm : f.2.isInstance permanent = true
  · exact Or.inl hperm
  · refine Or.inr fun e he => ?_
    obtain ⟨hgive, hretry, k, hk⟩ := trial_escaped he
    rcases hout _ _ _ _ hk with h | h
    · rw [hretry] at h
      cases h
    · rw [hgive] at h
      cases h

/-- Records are counted in the yields as they are in the tally. -/
theorem countP_quarantined (s : SinkState) (p : Origin × PyVal × DLQRecord → Prop)
    [DecidablePred p] :
    s.tally.quarantined.countP p =
      s.yields.countP fun y => (y.record?.map fun q => decide (p q)).getD false := by
  show Multiset.countP p (s.yields.filterMap SinkTuple.record? : List _) = _
  rw [Multiset.coe_countP, List.countP_filterMap]

/-- The yields settle a statement as often as the tally has a record of the sink for it. -/
theorem countP_settles (s : SinkState) (o : Origin) :
    (s.yields ++ [SinkTuple.stats s.payload]).countP (fun y => y.settles o) =
      s.tally.quarantined.countP fun q => q.1 = o ∧ q.2.2.failureStage = stageCassandraSink := by
  rw [countP_quarantined, List.countP_append]
  refine (Nat.add_zero _).trans (List.countP_congr fun y _ => ?_)
  cases y <;> simp [SinkTuple.settles, SinkTuple.record?]

/-- The yields have as many records of the sink as the tally. -/
theorem countP_isSinkRecord (s : SinkState) :
    (s.yields ++ [SinkTuple.stats s.payload]).countP SinkTuple.isSinkRecord =
      s.tally.quarantined.countP fun q => q.2.2.failureStage = stageCassandraSink := by
  rw [countP_quarantined, List.countP_append]
  refine (Nat.add_zero _).trans (List.countP_congr fun y _ => ?_)
  cases y <;> simp [SinkTuple.isSinkRecord, SinkTuple.record?]

/-- When no other tuple was yielded, the quarantined tuples are the yielded ones. -/
theorem card_quarantined {s : SinkState} (h : s.tally.others = 0) :
    s.tally.quarantined.card = s.yields.length ∧ ∀ y ∈ s.yields, y.isDlq = true := by
  have hsome : ∀ y ∈ s.yields, y.isDlq = true := by
    intro y hy
    have hnone := List.countP_eq_zero.mp h y hy
    cases y with
    | dlq o key value => rfl
    | stats p => exact absurd rfl hnone
  refine ⟨?_, hsome⟩
  show (s.yields.filterMap SinkTuple.record?).length = s.yields.length
  rw [List.length_filterMap_eq_countP, List.countP_eq_length]
  intro y hy
  cases y with
  | dlq o key value => rfl
  | stats p => cases hsome _ hy

/-- **The sink writes or quarantines every row, and its ledger balances.** -/
theorem writePartition_ledger (rows : List StreamRow)
    (htables : conf.tables = coreTables ∨ conf.tables = allTables)
    (hraw : ∀ r ∈ rows, ∃ raw, r.raw = some raw ∧ raw ≠ "")
    (hout : env.Listed) :
    ∃ run, writePartition env conf rows = .ok run ∧ LedgerBalances conf rows run := by
  have hsettle : ∀ chunk ∈ chunks conf rows, ∀ item ∈ chunk,
      RowSettles env conf (chunkTime env chunk) item :=
    fun chunk _ item _ => rowSettles_of_listed env conf hout (chunkTime env chunk) item
  obtain ⟨run, hrun⟩ := writePartition_of_settles env conf hsettle
  have hcovered : ∀ item ∈ rows.zipIdx,
      FullyWritten conf run item ∨ Quarantined env.codec run.yields item :=
    fun item hitem => written_or_quarantined env conf hrun hitem
  obtain ⟨s, rfl, hsettles, htally⟩ := writePartition_tally env conf hrun
  have hbalanced := balanced_total env conf hsettles
  rw [← htally] at hbalanced
  obtain ⟨hcard, hdlq⟩ := card_quarantined hbalanced.others
  refine ⟨_, hrun, ⟨?_, ?_, ?_, s.yields, s.payload, rfl, hdlq, ?_, ?_, ?_, ?_, ?_, ?_⟩⟩
  · intro r _ ingestedAtMs stmts hstmts
    rw [buildStatements_keys hstmts]
    rcases htables with h | h <;> rw [h] <;> rfl
  · intro item hitem
    refine (hcovered item hitem).imp_right ?_
    rintro ⟨o, key, value, hmem, hrow, hpayload⟩
    refine ⟨o, key, value, hmem, hrow, ?_⟩
    obtain ⟨raw, hsome, hne⟩ := hraw item.1 (List.fst_mem_of_mem_zipIdx hitem)
    rw [hpayload, rowJson, hsome]
    exact congrArg some (if_pos hne)
  · intro o ho
    have hone := settlements_total env conf hsettles o
    rw [← htally, List.count_eq_one_of_mem (nodup_builtStatements conf rows) ho] at hone
    rw [countP_settles]
    exact hone
  · exact hbalanced.dlqEmitted.trans hcard
  · have hwritten := hbalanced.rowsWritten
    refine hwritten.trans ?_
    show Multiset.countP _ (s.log : Multiset Execution) = _
    rw [Multiset.coe_countP]
    exact List.countP_congr fun x _ => by simp
  · rw [countP_isSinkRecord, ← written_add_sinkRecords_total env conf hsettles, ← htally]
    rfl
  · exact hbalanced.successes
  · show s.stats.attempts = s.stats.successes + s.stats.failureReasons.sortKeys.total
    rw [Counter.total_eq_card, Counter.toMultiset_sortKeys]
    exact hbalanced.attempts
  · exact hbalanced.retries

/-- A trip that was on time. -/
def sampleRow : StreamRow where
  raw := some "\x7b\x7d"
  topic := "trips.raw"
  partition := 0
  offset := 7
  kafkaTs := 0
  unparseable := false
  event :=
    { Event.nulls ℤ with
      eventId := some "00000000-0000-0000-0000-000000000001"
      tripId := some "00000000-0000-0000-0000-000000000002"
      eventTime := some 0
      producedAtMs := some 0
      cityId := some "NYC"
      driverId := some "d-1"
      fareAmount := some 12 }

/-- One table, five attempts. -/
def sampleConf : SinkConf :=
  ⟨coreTables, 400, some "trips.raw", ⟨[1000, 2000], 5, 0⟩⟩

/-- Every first execution times out, every later one succeeds. -/
def flakyEnv : SinkEnv where
  outcome _ _ n := if n = 0 then .error ⟨"WriteTimeout", "timed out", [.writeTimeout]⟩ else .ok ()
  ingestedAtMs _ := 0
  nowMs _ := 0
  sampled _ := false
  draw _ _ _ := 0
  codec := ⟨fun _ => none, fun _ => ""⟩
  host := "worker"

/-- The flaky sink raises only what is listed. -/
theorem flakyEnv_listed : flakyEnv.Listed := by
  intro row t n e he
  by_cases hn : n = 0
  · obtain rfl : _ = e := Except.error.inj ((if_pos hn).symm.trans he)
    exact Or.inl rfl
  · cases (if_neg hn).symm.trans he

/-- Every execution is refused. -/
def refusingEnv : SinkEnv :=
  { flakyEnv with outcome := fun _ _ _ => .error ⟨"InvalidRequest", "refused", [.invalidRequest]⟩ }

/-- The refusing sink raises only what is listed. -/
theorem refusingEnv_listed : refusingEnv.Listed := by
  intro row t n e he
  obtain rfl := Except.error.inj he
  exact Or.inr rfl

/-- The general result at a sink that raises once. -/
theorem writePartition_ledger_flaky :
    ∃ run, writePartition flakyEnv sampleConf [sampleRow, sampleRow] = .ok run ∧
      LedgerBalances sampleConf [sampleRow, sampleRow] run := by
  refine writePartition_ledger flakyEnv sampleConf _ (Or.inl rfl) ?_ flakyEnv_listed
  intro r hr
  refine ⟨"\x7b\x7d", ?_, by decide⟩
  simp only [List.mem_cons, List.not_mem_nil, or_false, or_self] at hr
  rw [hr]
  rfl

end ledger

end TripPipeline.Streaming
